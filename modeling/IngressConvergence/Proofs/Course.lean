import IngressConvergence.Proofs.Requests
import IngressConvergence.Proofs.World.Unchanged

/-!
# Courses of attempts

Faults can place themselves anywhere in a run, but what the run does to the cloud is told by little:
the tables before and after, the calls between them that may change something, and the result.
`Attempt.Course` relates the four for all worlds with these tables at once.  For each way in which
attempts are put together one lemma takes a course apart, so that the courses of a stage are found by
following its definition.  An attempt that asks only for some kind of calls changes the tables by such
calls alone; this is `Attempt.Course.of_asksOnly`.
-/

namespace IngressConvergence

/-- A request that is no call to the cloud, or a call that is of some kind. -/
def Request.IsCallOf
    (kind : CloudCall → Prop) : Request → Prop
  | .cloud call => kind call
  | _ => True

/-- Tables become others by calls of some kind that succeed one after the other. -/
inductive CloudTables.Becomes
    (kind : CloudCall → Prop)
    (tables : CloudTables) : CloudTables → Prop where
  | start : Becomes kind tables tables
  | call
      {middle after : CloudTables}
      {call : CloudCall}
      {answer : call.Answer}
      (earlier : Becomes kind tables middle)
      (isOfKind : kind call)
      (performed : middle.perform call = .ok (answer, after)) :
      Becomes kind tables after

/-! ## Courses -/

/-- What a call adds to the calls that may change the cloud. -/
def CloudCall.mutations
    (call : CloudCall) : List CloudCall :=
  [call].filter (·.isMutating)

namespace World

variable {Failure Value : Type}

/-- A run only adds to the calls that may change the cloud. -/
theorem exists_mutatingCalls_run
    (world : World)
    (attempt : Attempt Failure Value) :
    ∃ calls,
      (world.run attempt).2.cloud.mutatingCalls = world.cloud.mutatingCalls ++ calls := by
  rw [CloudService.mutatingCalls, cloud_calls_run, List.filter_append]
  exact ⟨_, rfl⟩

/-- A call adds itself to the calls that may change the cloud, if it is such a call and reaches
the cloud. -/
theorem exists_mutatingCalls_cloudCall
    (world : World)
    (call : CloudCall) :
    ∃ calls, calls <+: call.mutations ∧
      (world.cloudCall call).2.cloud.mutatingCalls = world.cloud.mutatingCalls ++ calls := by
  have grown := filterMap_cloudCall?_recordedUntil (grows_answer (.cloud call) world)
  change _ = (world.cloudCall call).2.cloud.calls at grown
  rw [CloudService.mutatingCalls, ← grown, List.filter_append]
  refine ⟨_, ?_, rfl⟩
  rcases (world.cloudCall_fate call).recordedUntil_eq with received | ⟨absent, -⟩
  · rw [show world.recordedUntil (answer (.cloud call) world).2 = [.cloud call] from received]
    exact List.prefix_refl _
  · rw [show world.recordedUntil (answer (.cloud call) world).2 = [] from absent]
    exact List.nil_prefix

/-- A request adds nothing but itself to the calls that may change the cloud. -/
theorem exists_mutatingCalls_answer
    (asked : Request)
    (world : World) :
    ∃ calls, (∀ call ∈ calls, asked = .cloud call) ∧
      (answer asked world).2.cloud.mutatingCalls = world.cloud.mutatingCalls ++ calls := by
  cases asked with
  | annotationsOf key => exact ⟨[], by simp, (List.append_nil _).symm⟩
  | configuration => exact ⟨[], by simp, (List.append_nil _).symm⟩
  | checkpoint operation => exact ⟨[], by simp, (List.append_nil _).symm⟩
  | report event => exact ⟨[], by simp, (List.append_nil _).symm⟩
  | collaborator call =>
      have same := congrArg CloudService.mutatingCalls (world.collaboratorCall_fate call).cloud
      exact ⟨[], by simp, same.trans (List.append_nil _).symm⟩
  | cloud call =>
      rcases world.exists_mutatingCalls_cloudCall call with ⟨calls, isPrefix, added⟩
      refine ⟨calls, ?_, added⟩
      intro other member
      have same := List.mem_singleton.mp (List.mem_of_mem_filter (isPrefix.subset member))
      exact congrArg Request.cloud same.symm

end World

namespace Attempt

variable {Failure Other First Second Value : Type}

/-- A course of an attempt: in some world with the tables before, the attempt makes some calls that
may change the cloud, ends with a result, and leaves the tables after. -/
def Course
    (attempt : Attempt Failure Value)
    (tables : CloudTables)
    (calls : List CloudCall)
    (result : Except Failure Value)
    (after : CloudTables) : Prop :=
  ∃ world : World,
    world.cloud.tables = tables ∧
      (world.run attempt).1 = result ∧
      (world.run attempt).2.cloud.tables = after ∧
      (world.run attempt).2.cloud.mutatingCalls = world.cloud.mutatingCalls ++ calls

/-- Every run takes a course. -/
theorem course_of_run
    (attempt : Attempt Failure Value)
    (world : World) :
    ∃ calls,
      (world.run attempt).2.cloud.mutatingCalls = world.cloud.mutatingCalls ++ calls ∧
        attempt.Course world.cloud.tables calls (world.run attempt).1
          (world.run attempt).2.cloud.tables := by
  rcases world.exists_mutatingCalls_run attempt with ⟨calls, added⟩
  exact ⟨calls, added, world, rfl, rfl, rfl, added⟩

namespace Course

variable {tables after : CloudTables} {calls : List CloudCall}

theorem ofExcept
    {given result : Except Failure Value}
    (course :
      Attempt.Course (ExceptT.mk (.done given) : Attempt Failure Value) tables calls result after) :
    result = given ∧ calls = [] ∧ after = tables := by
  rcases course with ⟨world, rfl, rfl, rfl, added⟩
  exact ⟨rfl, List.self_eq_append_right.mp added, rfl⟩

theorem pure
    {value : Value}
    {result : Except Failure Value}
    (course :
      Attempt.Course (Pure.pure value : Attempt Failure Value) tables calls result after) :
    result = .ok value ∧ calls = [] ∧ after = tables :=
  ofExcept course

/-- A course of two attempts ends in the first, which fails, or leads through both. -/
theorem bind
    {attempt : Attempt Failure First}
    {next : First → Attempt Failure Second}
    {result : Except Failure Second}
    (course : (attempt >>= next).Course tables calls result after) :
    (∃ failure, result = .error failure ∧
        attempt.Course tables calls (.error failure) after) ∨
      ∃ value earlier middle later,
        calls = earlier ++ later ∧ attempt.Course tables earlier (.ok value) middle ∧
          (next value).Course middle later result after := by
  rcases course with ⟨world, rfl, rfl, rfl, added⟩
  cases ran : world.run attempt with
  | mk outcome between =>
      cases outcome with
      | error failure =>
          rw [World.run_bind_of_error ran] at added ⊢
          exact .inl ⟨failure, rfl, world, rfl, by rw [ran], by rw [ran], by rw [ran]; exact added⟩
      | ok value =>
          rw [World.run_bind_of_ok ran] at added ⊢
          rcases world.exists_mutatingCalls_run attempt with ⟨earlier, addedEarlier⟩
          rcases between.exists_mutatingCalls_run (next value) with ⟨later, addedLater⟩
          have whole : calls = earlier ++ later := by
            rw [ran] at addedEarlier
            rw [addedLater, addedEarlier, List.append_assoc] at added
            exact (List.append_cancel_left added).symm
          refine .inr ⟨value, earlier, between.cloud.tables, later, whole, ?_, ?_⟩
          · exact ⟨world, rfl, by rw [ran], by rw [ran], addedEarlier⟩
          · exact ⟨between, rfl, rfl, rfl, addedLater⟩

/-- A course of two attempts that succeeds leads through both. -/
theorem bind_of_ok
    {attempt : Attempt Failure First}
    {next : First → Attempt Failure Second}
    {result : Second}
    (course : (attempt >>= next).Course tables calls (.ok result) after) :
    ∃ value earlier middle later,
      calls = earlier ++ later ∧ attempt.Course tables earlier (.ok value) middle ∧
        (next value).Course middle later (.ok result) after := by
  rcases course.bind with ⟨failure, same, -⟩ | through
  · cases same
  · exact through

theorem ite
    {condition : Prop}
    [Decidable condition]
    {attempt other : Attempt Failure Value}
    {result : Except Failure Value}
    (course : (if condition then attempt else other).Course tables calls result after) :
    condition ∧ attempt.Course tables calls result after ∨
      ¬ condition ∧ other.Course tables calls result after := by
  split at course
  next holds => exact .inl ⟨holds, course⟩
  next fails => exact .inr ⟨fails, course⟩

theorem mapFailure
    {attempt : Attempt Failure Value}
    {wrap : Failure → Other}
    {result : Except Other Value}
    (course : (attempt.mapFailure wrap).Course tables calls result after) :
    ∃ inner, result = inner.mapError wrap ∧ attempt.Course tables calls inner after := by
  rcases course with ⟨world, rfl, rfl, rfl, added⟩
  rw [World.run_mapFailure] at added ⊢
  exact ⟨_, rfl, world, rfl, rfl, rfl, added⟩

theorem reporting
    {attempt : Attempt Failure Value}
    {event : Except Failure Value → Option Event}
    {result : Except Failure Value}
    (course : (attempt.reporting event).Course tables calls result after) :
    attempt.Course tables calls result after := by
  rcases course with ⟨world, rfl, rfl, rfl, added⟩
  rcases world.run_reporting attempt event with ⟨sameResult, unchanged⟩
  exact ⟨world, rfl, sameResult.symm, unchanged.tables.symm,
    unchanged.mutatingCalls.symm.trans added⟩

/-! ### Single requests -/

/-- A call to the cloud fails and changes nothing, or it answers from the tables. -/
theorem cloud
    {call : CloudCall}
    {wrap : CloudError → Failure}
    {result : Except Failure call.Answer}
    (course : (Attempt.cloud call wrap).Course tables calls result after) :
    (∃ error, result = .error (wrap error) ∧ calls <+: call.mutations ∧ after = tables) ∨
      ∃ answer, result = .ok answer ∧ calls = call.mutations ∧
        tables.perform call = .ok (answer, after) := by
  rcases course with ⟨world, rfl, rfl, rfl, added⟩
  have ran :
      world.run (Attempt.cloud call wrap) =
        ((world.cloudCall call).1.mapError wrap, (world.cloudCall call).2) :=
    rfl
  rw [ran] at added ⊢
  rcases world.cloudCall_tables call with
    ⟨error, failed, same⟩ | ⟨answer, answered, recorded, performed⟩
  · rcases world.exists_mutatingCalls_cloudCall call with ⟨made, isPrefix, addedMade⟩
    rw [List.append_cancel_left (added.symm.trans addedMade), failed]
    exact .inl ⟨error, rfl, isPrefix, same⟩
  · have grown := World.filterMap_cloudCall?_recordedUntil (World.grows_answer (.cloud call) world)
    rw [show world.recordedUntil (World.answer (.cloud call) world).2 = [.cloud call] from
      recorded] at grown
    have made : (world.cloudCall call).2.cloud.calls = world.cloud.calls ++ [call] := grown.symm
    rw [CloudService.mutatingCalls, made, List.filter_append] at added
    rw [← List.append_cancel_left added, answered]
    exact .inr ⟨answer, rfl, rfl, performed⟩

theorem report
    {event : Event}
    {result : Except Failure Unit}
    (course : (Attempt.report event).Course tables calls result after) :
    result = .ok () ∧ calls = [] ∧ after = tables := by
  rcases course with ⟨world, rfl, rfl, rfl, added⟩
  exact ⟨rfl, List.self_eq_append_right.mp added, rfl⟩

theorem collaborator
    {call : CollaboratorCall}
    {wrap : Cause → Failure}
    {result : Except Failure call.Answer}
    (course : (Attempt.collaborator call wrap).Course tables calls result after) :
    calls = [] ∧ after = tables := by
  rcases course with ⟨world, rfl, rfl, rfl, added⟩
  have ran :
      world.run (Attempt.collaborator call wrap) =
        ((world.collaboratorCall call).1.mapError wrap, (world.collaboratorCall call).2) :=
    rfl
  rw [ran] at added ⊢
  rw [(world.collaboratorCall_fate call).cloud] at added ⊢
  exact ⟨List.self_eq_append_right.mp added, rfl⟩

/-! ### What follows a single request -/

theorem report_bind
    {event : Event}
    {next : Unit → Attempt Failure Value}
    {result : Except Failure Value}
    (course : (Attempt.report event >>= next).Course tables calls result after) :
    (next ()).Course tables calls result after := by
  rcases course.bind with ⟨failure, rfl, reports⟩ | ⟨value, earlier, middle, later, rfl, reports, rest⟩
  · cases reports.report.1
  · rcases reports.report with ⟨-, rfl, rfl⟩
    exact rest

theorem cloud_bind
    {call : CloudCall}
    {wrap : CloudError → Failure}
    {next : call.Answer → Attempt Failure Value}
    {result : Except Failure Value}
    (course : (Attempt.cloud call wrap >>= next).Course tables calls result after) :
    (∃ error, result = .error (wrap error) ∧ calls <+: call.mutations ∧ after = tables) ∨
      ∃ answer middle later,
        calls = call.mutations ++ later ∧ tables.perform call = .ok (answer, middle) ∧
          (next answer).Course middle later result after := by
  rcases course.bind with ⟨failure, rfl, asks⟩ | ⟨answer, earlier, middle, later, rfl, asks, rest⟩
  · rcases asks.cloud with ⟨error, same, made, rfl⟩ | ⟨answer, same, -⟩
    · cases same
      exact .inl ⟨error, rfl, made, rfl⟩
    · cases same
  · rcases asks.cloud with ⟨error, same, -⟩ | ⟨answered, same, rfl, performed⟩
    · cases same
    · cases same
      exact .inr ⟨answer, middle, later, rfl, performed, rest⟩

/-! ### Courses on which only some requests are made -/

/-- An attempt that asks only for calls of some kind makes only such calls, and only such calls change
the tables. -/
theorem of_asksOnly
    {kind : CloudCall → Prop}
    {attempt : Attempt Failure Value}
    {result : Except Failure Value}
    (asks : attempt.AsksOnly (Request.IsCallOf kind))
    (course : attempt.Course tables calls result after) :
    tables.Becomes kind after ∧ ∀ call ∈ calls, kind call := by
  rcases course with ⟨world, rfl, rfl, rfl, added⟩
  let Reached (moment : World) : Prop :=
    world.cloud.tables.Becomes kind moment.cloud.tables ∧
      ∃ made, moment.cloud.mutatingCalls = world.cloud.mutatingCalls ++ made ∧
        ∀ call ∈ made, kind call
  have step (asked : Request) (moment : World) (isAllowed : asked.IsCallOf kind)
      (reached : Reached moment) : Reached (World.answer asked moment).2 := by
    rcases reached with ⟨becomes, made, addedMade, allOfKind⟩
    constructor
    · rcases World.tables_answer asked moment with same | ⟨call, answer, rfl, -, performed⟩
      · rw [same]
        exact becomes
      · exact becomes.call isAllowed performed
    · rcases World.exists_mutatingCalls_answer asked moment with ⟨more, ownCalls, addedMore⟩
      refine ⟨made ++ more, by rw [addedMore, addedMade, List.append_assoc], ?_⟩
      intro call member
      rcases List.mem_append.mp member with earlier | now
      · exact allOfKind call earlier
      · cases ownCalls call now
        exact isAllowed
  have start : Reached world := ⟨.start, [], (List.append_nil _).symm, by simp⟩
  rcases asks.run_invariant step world start with ⟨becomes, made, addedMade, allOfKind⟩
  have same : calls = made := List.append_cancel_left (added.symm.trans addedMade)
  exact ⟨becomes, same ▸ allOfKind⟩

end Course

end Attempt

end IngressConvergence
