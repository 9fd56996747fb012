import IngressConvergence.Proofs.World.Liveness

/-!
# What becomes of a call

A call of a cycle passes a hook, which may cancel the context, make the call wait and make it fail.
`World.CloudCallFate` and `World.CollaboratorCallFate` list all that can become of a call: the context
ended first, the hook made it fail, or it was taken.  Later proofs argue from these lists and never
look into the calls again.
-/

namespace IngressConvergence.World

/-! ## Calls to the cloud -/

/-- What can become of a call to the cloud: the reply to it and the world after it. -/
inductive CloudCallFate
    (world : World)
    (call : CloudCall) :
    Except CloudError call.Answer → World → Prop where
  /-- The context ended before the call reached the service. -/
  | ended
      {error : CloudError}
      {later : World}
      (isCancellation : error.isCancellation = true)
      (moved : Later world later)
      (dead : ¬ later.IsLive) :
      CloudCallFate world call (.error error) later
  /-- The hook made the call fail before it reached the service. -/
  | failed
      {failure : Cause}
      {moment later : World}
      (placed : (world.takeHook call.operation).1.failure = some failure)
      (waited : Later world moment)
      (live : moment.IsLive)
      (moved : Later moment later) :
      CloudCallFate world call (.error (cloudFailure failure)) later
  /-- The call reached the service. -/
  | received
      {moment later : World}
      (waited : Later world moment)
      (live : moment.IsLive)
      (moved : Later { moment with cloud := (moment.cloud.receive call).2 } later) :
      CloudCallFate world call (moment.cloud.receive call).1 later

/-- Under a live context a call on which no hook acts reaches the service. -/
theorem plainCloudCall_of_isLive
    {world : World}
    (live : world.IsLive)
    (call : CloudCall) :
    world.plainCloudCall call =
      ((world.cloud.receive call).1, { world with cloud := (world.cloud.receive call).2 }) := by
  have starts : world.context.check world.timeline call.operation = .ok () :=
    CallContext.check_eq_ok_iff.mpr live
  simp only [plainCloudCall, CloudService.call, starts]

/-- A call that reaches the service or is made to fail at a live moment meets one of its fates. -/
theorem failingCloudCall_fate
    {world moment : World}
    {call : CloudCall}
    (asked : Bool)
    (waited : Later world moment)
    (live : moment.IsLive) :
    CloudCallFate world call
      (moment.failingCloudCall call (world.takeHook call.operation).1.failure).1
      ((moment.failingCloudCall call
        (world.takeHook call.operation).1.failure).2.cancelIf asked) := by
  cases placed : (world.takeHook call.operation).1.failure with
  | some failure => exact .failed placed waited live (later_cancelIf _ _)
  | none =>
      rw [failingCloudCall, plainCloudCall_of_isLive live]
      exact .received waited live (later_cancelIf _ _)

/-- A call to the cloud meets one of its fates. -/
theorem cloudCall_fate
    (world : World)
    (call : CloudCall) :
    CloudCallFate world call (world.cloudCall call).1 (world.cloudCall call).2 := by
  let hook := (world.takeHook call.operation).1
  let begun := (world.takeHook call.operation).2.cancelIf hook.cancelsBefore
  have reached : Later world begun :=
    (world.later_takeHook _).trans (later_cancelIf _ _)
  show CloudCallFate world call (begun.delayedCloudCall call hook).1
    ((begun.delayedCloudCall call hook).2.cancelIf hook.cancelsAfter)
  rcases begun.wait_cases call.operation (hook.delay.getD 0) with
    ⟨after, ended, moved, live⟩ | ⟨error, after, stopped, moved, dead, isCancellation⟩
  · have delayed :
        begun.delayedCloudCall call hook = after.failingCloudCall call hook.failure := by
      rw [delayedCloudCall, ended]
    rw [delayed]
    exact failingCloudCall_fate hook.cancelsAfter (reached.trans moved) live
  · have delayed : begun.delayedCloudCall call hook = (.error error, after) := by
      rw [delayedCloudCall, stopped]
    rw [delayed]
    refine .ended isCancellation ((reached.trans moved).trans (later_cancelIf _ _)) ?_
    intro live
    exact dead ((later_cancelIf _ _).isLive live)

/-! ## Calls to collaborators -/

/-- What can become of a call to a collaborator: the reply to it and the world after it. -/
inductive CollaboratorCallFate
    (world : World)
    (call : CollaboratorCall) :
    Except Cause call.Answer → World → Prop where
  /-- The context ended before the collaborator took the call. -/
  | ended
      {error : CloudError}
      {later : World}
      (isCancellation : error.isCancellation = true)
      (moved : Later world later)
      (dead : ¬ later.IsLive) :
      CollaboratorCallFate world call (.error (.cloud error)) later
  /-- The collaborator took the call, and the hook made it fail. -/
  | failed
      {failure : Cause}
      {moment later : World}
      (placed : (world.takeHook call.point).1.failure = some failure)
      (waited : Later world moment)
      (live : moment.IsLive)
      (moved : Later { moment with journal := moment.journal ++ [call] } later) :
      CollaboratorCallFate world call (.error failure) later
  /-- The collaborator took the call and answered it. -/
  | answered
      {moment later : World}
      (waited : Later world moment)
      (live : moment.IsLive)
      (moved : Later { moment with journal := moment.journal ++ [call] } later) :
      CollaboratorCallFate world call (.ok (world.collaboratorAnswer call)) later

theorem collaboratorAnswer_congr
    {world other : World}
    (sameScript : other.targetGroups = world.targetGroups)
    (call : CollaboratorCall) :
    other.collaboratorAnswer call = world.collaboratorAnswer call := by
  cases call with
  | convergeTargetGroups ingress => rw [collaboratorAnswer, collaboratorAnswer, sameScript]
  | _ => rfl

/-- A call that a collaborator takes at a live moment meets one of its fates. -/
theorem takeCall_fate
    {world moment : World}
    {call : CollaboratorCall}
    (waited : Later world moment)
    (live : moment.IsLive) :
    CollaboratorCallFate world call
      (moment.takeCall call (world.takeHook call.point).1).1
      (moment.takeCall call (world.takeHook call.point).1).2 := by
  rw [takeCall]
  cases placed : (world.takeHook call.point).1.failure with
  | some failure => exact .failed placed waited live (later_cancelIf _ _)
  | none =>
      have moved := later_cancelIf { moment with journal := moment.journal ++ [call] }
        (world.takeHook call.point).1.cancelsAfter
      dsimp only
      rw [collaboratorAnswer_congr (moved.targetGroups.trans waited.targetGroups)]
      exact .answered waited live moved

theorem checkedCall_fate
    {world moment : World}
    {call : CollaboratorCall}
    (waited : Later world moment) :
    CollaboratorCallFate world call
      (moment.checkedCall call (world.takeHook call.point).1).1
      (moment.checkedCall call (world.takeHook call.point).1).2 := by
  rw [checkedCall]
  cases starts : moment.check call.point with
  | ok done => exact takeCall_fate waited (CallContext.check_eq_ok_iff.mp starts)
  | error error =>
      have dead : ¬ moment.IsLive := by
        intro live
        have passes : moment.check call.point = .ok () :=
          CallContext.check_eq_ok_iff.mpr live
        rw [starts] at passes
        cases passes
      rcases CallContext.check_eq_error_of_not_isLive call.point dead with
        ⟨found, stops, isCancellation⟩
      have same : found = error := by
        simpa [starts] using (stops.symm.trans starts)
      subst same
      exact .ended isCancellation waited dead

/-- Every call to a collaborator meets one of the listed fates. -/
theorem collaboratorCall_fate
    (world : World)
    (call : CollaboratorCall) :
    CollaboratorCallFate world call
      (world.collaboratorCall call).1 (world.collaboratorCall call).2 := by
  let hook := (world.takeHook call.point).1
  let begun := (world.takeHook call.point).2.cancelIf hook.cancelsBefore
  have reached : Later world begun :=
    (world.later_takeHook _).trans (later_cancelIf _ _)
  show CollaboratorCallFate world call (begun.delayedCall call hook).1
    (begun.delayedCall call hook).2
  cases delay : hook.delay with
  | none =>
      have delayed : begun.delayedCall call hook = begun.checkedCall call hook := by
        rw [delayedCall, delay]
      rw [delayed]
      exact checkedCall_fate reached
  | some duration =>
      rcases begun.wait_cases call.point duration with
        ⟨after, ended, moved, -⟩ | ⟨error, after, stopped, moved, dead, isCancellation⟩
      · have delayed : begun.delayedCall call hook = after.checkedCall call hook := by
          rw [delayedCall, delay]
          simp only [ended]
        rw [delayed]
        exact checkedCall_fate (reached.trans moved)
      · have delayed : begun.delayedCall call hook = (.error (.cloud error), after) := by
          rw [delayedCall, delay]
          simp only [stopped]
        rw [delayed]
        exact .ended isCancellation (reached.trans moved) dead

end IngressConvergence.World
