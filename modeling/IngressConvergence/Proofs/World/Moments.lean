import IngressConvergence.Proofs.World.Calls
import IngressConvergence.Proofs.Transcript
import IngressConvergence.Simulation.Run

/-!
# The moments of a run

A call does not happen at once: its hook is used up and may cancel the context, the call waits, it is
served, and the hook may cancel the context again.  `World.moments` lists the worlds that a request
passes through, and `World.history` those of a run.  From one moment to the next something is recorded
or a table changes only while the context is live; this is `World.path_history`.
-/

namespace IngressConvergence.World

/-! ## The parts of a call -/

/-- The world in which a call of a point has begun: its hook is used up and may have cancelled the
context. -/
def begun
    (world : World)
    (point : String) : World :=
  (world.takeHook point).2.cancelIf (world.takeHook point).1.cancelsBefore

/-- The world in which a call of a point has waited. -/
def waited
    (world : World)
    (point : String) : World :=
  ((world.begun point).wait point ((world.takeHook point).1.delay.getD 0)).2

/-- The world in which a request is decided: its call has waited and was not served yet. -/
def reached
    (world : World) :
    Request → World
  | .cloud call => world.waited call.operation
  | .collaborator call => world.waited call.point
  | .annotationsOf _ => world
  | .configuration => world
  | .checkpoint _ => world
  | .report _ => world

/-- The world in which a call to the cloud has been served. -/
def served
    (world : World)
    (call : CloudCall) : World :=
  ((world.begun call.operation).delayedCloudCall call (world.takeHook call.operation).1).2

/-- The world in which a collaborator has written a call down, unless it did not take it. -/
def noted
    (world : World)
    (call : CollaboratorCall) : World :=
  match world.check call.point with
  | .ok () => { world with journal := world.journal ++ [call] }
  | .error _ => world

/-- The worlds that a request passes through, up to the one after it. -/
def moments
    (world : World) :
    Request → List World
  | .cloud call =>
      [(world.takeHook call.operation).2, world.begun call.operation, world.waited call.operation,
        world.served call, (world.cloudCall call).2]
  | .collaborator call =>
      [(world.takeHook call.point).2, world.begun call.point, world.waited call.point,
        (world.waited call.point).noted call, (world.collaboratorCall call).2]
  | .annotationsOf key => [(answer (.annotationsOf key) world).2]
  | .configuration => [(answer .configuration world).2]
  | .checkpoint operation => [(answer (.checkpoint operation) world).2]
  | .report event => [(answer (.report event) world).2]

/-- The worlds that a run of an attempt passes through, after the one in which it starts. -/
def history
    {Failure Value : Type}
    (world : World)
    (attempt : Attempt Failure Value) : List World :=
  ((ExceptT.run attempt).transcript answer world).flatMap fun exchange =>
    exchange.before.moments exchange.asked

/-! ## Paths -/

/-- From one moment to the next nothing is recorded and no table changes, or the context is live and
no time passes. -/
def ActsWhileLive
    (moment next : World) : Prop :=
  (next.cloud.calls = moment.cloud.calls ∧ next.journal = moment.journal ∧
      next.cloud.tables = moment.cloud.tables) ∨
    (moment.IsLive ∧ next.context = moment.context ∧ next.timeline = moment.timeline)

/-- Worlds that lead from one world to another, each of them related to the next. -/
inductive Path
    (related : World → World → Prop) :
    World → List World → World → Prop where
  | here
      (world : World) :
      Path related world [] world
  | step
      {world next later : World}
      {moments : List World}
      (first : related world next)
      (rest : Path related next moments later) :
      Path related world (next :: moments) later

theorem Path.append
    {related : World → World → Prop}
    {world middle later : World}
    {moments moments' : List World}
    (first : Path related world moments middle)
    (rest : Path related middle moments' later) :
    Path related world (moments ++ moments') later := by
  induction first with
  | here world => exact rest
  | step related first ih => exact .step related (ih rest)

variable {Failure Value : Type} {world later : World}

theorem Later.actsWhileLive
    (moved : Later world later) :
    ActsWhileLive world later :=
  .inl ⟨congrArg _ moved.cloud, moved.journal, congrArg _ moved.cloud⟩

/-! ## The steps of a call -/

theorem later_begun
    (world : World)
    (point : String) :
    Later (world.takeHook point).2 (world.begun point) :=
  later_cancelIf _ _

theorem later_waited
    (world : World)
    (point : String) :
    Later (world.begun point) (world.waited point) :=
  later_wait _ _ _

/-- A call to the cloud is served while the context is live, or not at all. -/
theorem actsWhileLive_served
    (world : World)
    (call : CloudCall) :
    ActsWhileLive (world.waited call.operation) (world.served call) := by
  rw [waited, served, delayedCloudCall]
  rcases (world.begun call.operation).wait_cases call.operation
      ((world.takeHook call.operation).1.delay.getD 0) with
    ⟨after, ended, -, live⟩ | ⟨error, after, stopped, -, -, -⟩
  · rw [ended]
    dsimp only
    cases (world.takeHook call.operation).1.failure with
    | some failure => exact (Later.refl after).actsWhileLive
    | none =>
        refine .inr ⟨live, ?_, ?_⟩
        · rfl
        · rfl
  · rw [stopped]
    exact (Later.refl after).actsWhileLive

theorem wait_zero_snd
    (world : World)
    (operation : String) :
    (world.wait operation 0).2 = world := by
  have atOnce :
      (world.context.run world.timeline operation 0 (.ok ()) none).instant =
        world.timeline.now := by
    rw [CallContext.run]
    split
    · rfl
    · rfl
  simp only [wait, atOnce, Timeline.advanceTo, Nat.max_self]

/-- A collaborator is asked once the call has waited. -/
theorem delayedCall_snd
    (world : World)
    (call : CollaboratorCall) :
    ((world.begun call.point).delayedCall call (world.takeHook call.point).1).2 =
      ((world.waited call.point).checkedCall call (world.takeHook call.point).1).2 := by
  rw [waited, delayedCall]
  cases (world.takeHook call.point).1.delay with
  | none =>
      dsimp only
      rw [Option.getD_none, wait_zero_snd]
  | some duration =>
      dsimp only [Option.getD_some]
      rcases (world.begun call.point).wait_cases call.point duration with
        ⟨after, ended, -, -⟩ | ⟨error, after, stopped, -, dead, -⟩
      · simp only [ended]
      · rcases CallContext.check_eq_error_of_not_isLive call.point dead with ⟨refusal, refused, -⟩
        have checked : after.check call.point = .error refusal := refused
        simp only [stopped, checkedCall, checked]

theorem actsWhileLive_noted
    (world : World)
    (call : CollaboratorCall) :
    ActsWhileLive world (world.noted call) := by
  rw [noted]
  cases starts : world.check call.point with
  | ok done => exact .inr ⟨CallContext.check_eq_ok_iff.mp starts, rfl, rfl⟩
  | error error => exact (Later.refl world).actsWhileLive

/-- Once a call is written down, its collaborator at most cancels the context. -/
theorem later_noted
    (world : World)
    (call : CollaboratorCall)
    (hook : Hook) :
    Later (world.noted call) (world.checkedCall call hook).2 := by
  rw [noted, checkedCall]
  cases world.check call.point with
  | error error => exact .refl world
  | ok done =>
      dsimp only
      rw [takeCall]
      cases hook.failure with
      | some failure => exact later_cancelIf _ _
      | none => exact later_cancelIf _ _

/-! ## Requests and runs -/

theorem path_moments
    (asked : Request)
    (world : World) :
    Path ActsWhileLive world (world.moments asked) (answer asked world).2 := by
  cases asked with
  | annotationsOf key => exact .step (Later.refl world).actsWhileLive (.here world)
  | configuration => exact .step (Later.refl world).actsWhileLive (.here world)
  | checkpoint operation => exact .step (Later.refl world).actsWhileLive (.here world)
  | report event => exact .step (.inl ⟨rfl, rfl, rfl⟩) (.here _)
  | cloud call =>
      refine .step (world.later_takeHook call.operation).actsWhileLive ?_
      refine .step (world.later_begun call.operation).actsWhileLive ?_
      refine .step (world.later_waited call.operation).actsWhileLive ?_
      refine .step (world.actsWhileLive_served call) ?_
      have last : Later (world.served call) (world.cloudCall call).2 := later_cancelIf _ _
      exact .step last.actsWhileLive (.here _)
  | collaborator call =>
      refine .step (world.later_takeHook call.point).actsWhileLive ?_
      refine .step (world.later_begun call.point).actsWhileLive ?_
      refine .step (world.later_waited call.point).actsWhileLive ?_
      refine .step ((world.waited call.point).actsWhileLive_noted call) ?_
      have last : Later ((world.waited call.point).noted call) (world.collaboratorCall call).2 := by
        have asked : (world.collaboratorCall call).2 = _ := world.delayedCall_snd call
        rw [asked]
        exact (world.waited call.point).later_noted call _
      exact .step last.actsWhileLive (.here _)

/-- The history of a run leads to the world after it, and on the way something is recorded or a table
changes only while the context is live. -/
theorem path_history
    (world : World)
    (attempt : Attempt Failure Value) :
    Path ActsWhileLive world (world.history attempt) (world.run attempt).2 := by
  rw [history, run]
  induction ExceptT.run attempt generalizing world with
  | done value => exact .here world
  | request asked next ih =>
      rw [Program.transcript_request, List.flatMap_cons, Program.run_request]
      exact (path_moments asked world).append (ih _ _)

/-! ## Requests under a context that has ended -/

/-- A world in which a request is decided comes after the one in which it is made. -/
theorem later_reached
    (asked : Request)
    (world : World) :
    Later world (world.reached asked) := by
  have waits (point : String) : Later world (world.waited point) :=
    (world.later_takeHook point).trans ((world.later_begun point).trans (world.later_waited point))
  cases asked with
  | cloud call => exact waits call.operation
  | collaborator call => exact waits call.point
  | annotationsOf key => exact .refl world
  | configuration => exact .refl world
  | checkpoint operation => exact .refl world
  | report event => exact .refl world

/-- A collaborator does not take a call if the context has ended by the time it has waited. -/
theorem collaboratorCall_of_not_isLive
    (world : World)
    {call : CollaboratorCall}
    (dead : ¬ (world.waited call.point).IsLive) :
    ∃ error, (world.collaboratorCall call).1 = .error (.cloud error) ∧
      error.isCancellation = true := by
  show ∃ error, ((world.begun call.point).delayedCall call (world.takeHook call.point).1).1 =
    .error (.cloud error) ∧ error.isCancellation = true
  rw [waited] at dead
  rw [delayedCall]
  cases delay : (world.takeHook call.point).1.delay with
  | none =>
      rw [delay, Option.getD_none, wait_zero_snd] at dead
      rcases CallContext.check_eq_error_of_not_isLive call.point dead with
        ⟨error, refused, isCancellation⟩
      have checked : (world.begun call.point).check call.point = .error error := refused
      refine ⟨error, ?_, isCancellation⟩
      simp only [checkedCall, checked]
  | some duration =>
      rw [delay, Option.getD_some] at dead
      rcases (world.begun call.point).wait_cases call.point duration with
        ⟨after, ended, -, live⟩ | ⟨error, after, stopped, -, -, isCancellation⟩
      · rw [ended] at dead
        exact absurd live dead
      · refine ⟨error, ?_, isCancellation⟩
        simp only [stopped]

/-- A request that leads out of the controller is refused as cancelled if the context has ended by the
time at which it is decided. -/
theorem refused_of_not_isLive
    {asked : Request}
    (external : asked.isExternal = true)
    (dead : ¬ (world.reached asked).IsLive) :
    ∃ cause, asked.refusal? (answer asked world).1 = some cause ∧
      cause.isCancellation = true := by
  cases asked with
  | configuration => cases external
  | report event => cases external
  | annotationsOf key =>
      rcases CallContext.check_eq_error_of_not_isLive "GetIngressAnnotations" dead with
        ⟨error, refused, isCancellation⟩
      refine ⟨.cloud error, ?_, isCancellation⟩
      have checked :
          world.context.check world.timeline "GetIngressAnnotations" = .error error := refused
      simp only [answer, Store.annotationsOf, checked, Request.refusal?, failureOf?]
  | checkpoint operation =>
      rcases CallContext.check_eq_error_of_not_isLive operation dead with
        ⟨error, refused, isCancellation⟩
      refine ⟨.cloud error, ?_, isCancellation⟩
      have checked : world.check operation = .error error := refused
      simp only [answer, checked, Request.refusal?, failureOf?, Option.map_some]
  | cloud call =>
      rcases (world.begun call.operation).wait_cases call.operation
          ((world.takeHook call.operation).1.delay.getD 0) with
        ⟨after, ended, -, live⟩ | ⟨error, after, stopped, -, -, isCancellation⟩
      · refine absurd ?_ dead
        show (world.waited call.operation).IsLive
        rw [waited, ended]
        exact live
      · refine ⟨.cloud error, ?_, isCancellation⟩
        have refused : (world.cloudCall call).1 = .error error := by
          show ((world.begun call.operation).delayedCloudCall call
            (world.takeHook call.operation).1).1 = _
          rw [delayedCloudCall, stopped]
        simp only [answer, refused, Request.refusal?, failureOf?, Option.map_some]
  | collaborator call =>
      rcases world.collaboratorCall_of_not_isLive dead with ⟨error, refused, isCancellation⟩
      refine ⟨.cloud error, ?_, isCancellation⟩
      simp only [answer, refused, Request.refusal?, failureOf?]

/-! ## What refuses a call -/

/-- The error with which a call to the cloud is refused before the tables are asked, if it is.  It depends
on the operation and not on what the call carries. -/
def refusalOf
    (world : World)
    (operation : String) : Option CloudError :=
  match (world.begun operation).wait operation ((world.takeHook operation).1.delay.getD 0) with
  | (.error error, _) => some error
  | (.ok (), after) =>
      match (world.takeHook operation).1.failure with
      | some failure => some (cloudFailure failure)
      | none => (after.cloud.failures.lookup operation).map (.api operation)

/-- A call that is not refused is answered from the tables. -/
theorem cloudCall_fst
    (world : World)
    (call : CloudCall) :
    (world.cloudCall call).1 =
      match world.refusalOf call.operation with
      | some error => .error error
      | none => (world.cloud.tables.perform call).map (·.1) := by
  show ((world.begun call.operation).delayedCloudCall call
    (world.takeHook call.operation).1).1 = _
  rw [delayedCloudCall, refusalOf]
  rcases (world.begun call.operation).wait_cases call.operation
      ((world.takeHook call.operation).1.delay.getD 0) with
    ⟨after, ended, moved, live⟩ | ⟨error, after, stopped, -, -, -⟩
  · have sameCloud : after.cloud = world.cloud :=
      ((world.later_takeHook _).trans ((world.later_begun _).trans moved)).cloud
    rw [ended]
    dsimp only
    cases (world.takeHook call.operation).1.failure with
    | some failure => rfl
    | none =>
        rw [failingCloudCall, plainCloudCall_of_isLive live, sameCloud, CloudService.receive]
        cases world.cloud.failures.lookup call.operation with
        | some message => rfl
        | none =>
            cases world.cloud.tables.perform call with
            | ok done => rfl
            | error error => rfl
  · rw [stopped]

end IngressConvergence.World
