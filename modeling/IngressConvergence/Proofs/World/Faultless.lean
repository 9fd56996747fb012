import IngressConvergence.Proofs.World.Undisturbed
import IngressConvergence.Table.Lemmas

/-!
# Worlds in which no fault waits

A world is quiet if no hook and no failure waits for a call.  No time passes then, so that a context
that is live stays live, the world stays quiet whatever is asked of it, and every run in it is
undisturbed.  It is faultless if moreover no token is cancelled and the context has no deadline.
`World.withoutFaults` takes the faults out of a world and leaves its state as it is.
-/

namespace IngressConvergence.World

variable {Failure Value : Type} {world : World}

/-- No hook and no failure waits for a call. -/
structure IsQuiet (world : World) : Prop where
  noHook : world.hooks = ∅
  noFailure : world.cloud.failures = ∅

/-- No fault waits, and the context cannot end. -/
structure IsFaultless (world : World) : Prop where
  noHook : world.hooks = ∅
  noFailure : world.cloud.failures = ∅
  noDeadline : world.context.deadline = none
  noneCancelled : world.timeline.cancelled = []

/-- The world with the same state in which no fault waits. -/
def withoutFaults (world : World) : World :=
  { world with
    hooks := ∅
    cloud := { world.cloud with failures := ∅ }
    context := { world.context with deadline := none }
    timeline := { world.timeline with cancelled := [] } }

theorem isFaultless_withoutFaults
    (world : World) :
    world.withoutFaults.IsFaultless := ⟨rfl, rfl, rfl, rfl⟩

theorem Matches.withoutFaults
    {calm : CalmWorld}
    (agrees : world.Matches calm) :
    world.withoutFaults.Matches calm where
  tables := agrees.tables
  store := agrees.store
  answers := (funext (collaboratorAnswer_congr rfl)).trans agrees.answers

/-! ## Quiet worlds -/

theorem IsLive.wait_zero
    (live : world.IsLive)
    (operation : String) :
    world.wait operation 0 = (.ok (), world) := by
  have goesOn :
      world.context.failureAt world.timeline operation none world.timeline.now = none :=
    (CallContext.failureAt_eq_none_iff operation).mpr live
  simp [wait, CallContext.run, goesOn, Timeline.advanceTo]

namespace IsQuiet

theorem not_placesFault
    (quiet : world.IsQuiet)
    (asked : Request) :
    ¬ world.PlacesFault asked := by
  cases asked with
  | cloud call => simp [PlacesFault, takeHook, quiet.noHook, quiet.noFailure]
  | collaborator call => simp [PlacesFault, takeHook, quiet.noHook]
  | annotationsOf key => exact id
  | configuration => exact id
  | checkpoint operation => exact id
  | report event => exact id

/-- Every point has the hook that does nothing, and using it up changes nothing. -/
theorem takeHook_eq
    (quiet : world.IsQuiet)
    (point : String) :
    world.takeHook point = ({}, world) := by
  have noneLeft : world.hooks.erase point = world.hooks := by
    rw [quiet.noHook]
    rfl
  rw [takeHook, noneLeft, quiet.noHook]
  refine Prod.ext rfl ?_
  rw [← quiet.noHook]

/-- In a quiet world calls to the cloud are received as they are made. -/
theorem cloudCall_eq
    (quiet : world.IsQuiet)
    (live : world.IsLive)
    (call : CloudCall) :
    world.cloudCall call =
      ((world.cloud.receive call).1, { world with cloud := (world.cloud.receive call).2 }) := by
  have waited : world.delayedCloudCall call {} = world.plainCloudCall call := by
    have ended : world.wait call.operation ((none : Option Nat).getD 0) = (.ok (), world) :=
      live.wait_zero call.operation
    rw [delayedCloudCall]
    rw [ended]
    rfl
  rw [cloudCall, quiet.takeHook_eq]
  show ((world.delayedCloudCall call {}).1, (world.delayedCloudCall call {}).2) = _
  rw [waited]
  exact plainCloudCall_of_isLive live call

theorem collaboratorCall_eq
    (quiet : world.IsQuiet)
    (live : world.IsLive)
    (call : CollaboratorCall) :
    world.collaboratorCall call =
      (.ok ({ world with journal := world.journal ++ [call] }.collaboratorAnswer call),
        { world with journal := world.journal ++ [call] }) := by
  have starts : world.check call.point = .ok () := CallContext.check_eq_ok_iff.mpr live
  rw [collaboratorCall, quiet.takeHook_eq]
  show world.checkedCall call {} = _
  rw [checkedCall, starts]
  rfl

end IsQuiet

/-- A world that stays quiet at the same instant, under the same context. -/
structure StaysQuiet
    (world later : World) : Prop extends IsQuiet later where
  timeline : later.timeline = world.timeline
  context : later.context = world.context

theorem StaysQuiet.trans
    {middle later : World}
    (first : StaysQuiet world middle)
    (second : StaysQuiet middle later) :
    StaysQuiet world later where
  toIsQuiet := second.toIsQuiet
  timeline := second.timeline.trans first.timeline
  context := second.context.trans first.context

theorem StaysQuiet.isLive
    {later : World}
    (stays : StaysQuiet world later)
    (live : world.IsLive) :
    later.IsLive := by
  rw [IsLive, stays.context, stays.timeline]
  exact live

namespace IsQuiet

theorem stays
    (quiet : world.IsQuiet) :
    StaysQuiet world world where
  toIsQuiet := quiet
  timeline := rfl
  context := rfl

/-- A request under a live context takes no time and leaves no fault. -/
theorem answer
    (quiet : world.IsQuiet)
    (live : world.IsLive)
    (asked : Request) :
    StaysQuiet world (World.answer asked world).2 := by
  cases asked with
  | annotationsOf key => exact quiet.stays
  | configuration => exact quiet.stays
  | checkpoint operation => exact quiet.stays
  | report event => exact { quiet.stays with }
  | collaborator call =>
      show StaysQuiet world (world.collaboratorCall call).2
      rw [quiet.collaboratorCall_eq live]
      exact { quiet.stays with }
  | cloud call =>
      show StaysQuiet world (world.cloudCall call).2
      have noneWaits : world.cloud.failures.lookup call.operation = none := by
        rw [quiet.noFailure]
        rfl
      rw [quiet.cloudCall_eq live, CloudService.receive_of_no_failure noneWaits]
      cases world.cloud.tables.perform call with
      | ok done => exact { quiet.stays with noFailure := quiet.noFailure }
      | error error => exact { quiet.stays with noFailure := quiet.noFailure }

theorem run
    (quiet : world.IsQuiet)
    (live : world.IsLive)
    (attempt : Attempt Failure Value) :
    StaysQuiet world (world.run attempt).2 :=
  Program.run_invariant World.answer
    (fun asked _ stays => stays.trans (stays.toIsQuiet.answer (stays.isLive live) asked))
    (ExceptT.run attempt) world quiet.stays

/-- Every run in a quiet world under a live context is undisturbed. -/
theorem undisturbed
    (quiet : world.IsQuiet)
    (live : world.IsLive)
    (attempt : Attempt Failure Value) :
    world.Undisturbed attempt where
  meetsNoFault := by
    intro exchange member
    have before := Program.transcript_invariant World.answer
      (fun asked _ stays => stays.trans (stays.toIsQuiet.answer (stays.isLive live) asked))
      (ExceptT.run attempt) world quiet.stays exchange member
    exact before.toIsQuiet.not_placesFault exchange.asked
  staysLive := (quiet.run live attempt).isLive live

end IsQuiet

/-! ## Faultless worlds -/

namespace IsFaultless

theorem isQuiet
    (faultless : world.IsFaultless) :
    world.IsQuiet := ⟨faultless.noHook, faultless.noFailure⟩

theorem isLive
    (faultless : world.IsFaultless) :
    world.IsLive where
  notCancelled := by
    simp [CallContext.isCancelled, Timeline.isCancelled, faultless.noneCancelled]
  beforeDeadline := by
    intro deadline given
    rw [faultless.noDeadline] at given
    cases given

theorem run
    (faultless : world.IsFaultless)
    (attempt : Attempt Failure Value) :
    (world.run attempt).2.IsFaultless := by
  have stays := faultless.isQuiet.run faultless.isLive attempt
  constructor
  · exact stays.noHook
  · exact stays.noFailure
  · rw [stays.context, faultless.noDeadline]
  · rw [stays.timeline, faultless.noneCancelled]

/-- Every run in a faultless world is undisturbed. -/
theorem undisturbed
    (faultless : world.IsFaultless)
    (attempt : Attempt Failure Value) :
    world.Undisturbed attempt :=
  faultless.isQuiet.undisturbed faultless.isLive attempt

end IsFaultless

end IngressConvergence.World
