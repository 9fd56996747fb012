import IngressConvergence.Proofs.FailFast.Cycle
import IngressConvergence.Proofs.Schedule.Cycle
import IngressConvergence.Proofs.World.Faultless

/-!
# The prefix law

Faults can cut an operation short and do nothing else to it.  What an operation leaves on record in a
world is the beginning of what it leaves on record in the same world without its faults, and all of it
if the operation succeeds; it is in the order of a schedule, and nothing but reports follows the first
request that is refused.  `Controller.prefix_law` shows this for cycles and removals.
-/

namespace IngressConvergence

namespace World

variable {Failure Value : Type} {world : World} {operation : Attempt Failure Value}

/-- What an operation leaves on record without faults is what it leaves on record in a calm
world. -/
theorem record_withoutFaults
    (world : World)
    (operation : Attempt Failure Value) :
    world.withoutFaults.record operation = (world.calm.run operation).2.effects := by
  have undisturbed := world.isFaultless_withoutFaults.undisturbed operation
  exact (undisturbed.runsAs world.matches_calm.withoutFaults).recorded.symm

/-- The prefix law for one operation in one world. -/
structure ObeysPrefixLaw
    (world : World)
    (operation : Attempt Failure Value)
    (schedule : List Stage) : Prop where
  /-- The record holds the calls that the cloud recorded, in their order. -/
  cloudCalls :
    (world.run operation).2.cloud.calls =
      world.cloud.calls ++ (world.record operation).filterMap Effect.cloudCall?
  /-- The record holds the calls that collaborators wrote down, in their order. -/
  journal :
    (world.run operation).2.journal =
      world.journal ++ (world.record operation).filterMap Effect.collaboratorCall?
  /-- With faults the record is a beginning of that without faults. -/
  begins : world.record operation <+: world.withoutFaults.record operation
  /-- If the operation succeeds, the record is all of that without faults. -/
  isWhole :
    ∀ value, (world.run operation).1 = .ok value →
      world.record operation = world.withoutFaults.record operation
  /-- The record goes through the stages of the schedule in their order. -/
  inOrder : KeepsTo schedule (world.record operation)
  /-- After a refused request the operation fails and asks for nothing but reports. -/
  stops :
    ∀ earlier refused later cause,
      (ExceptT.run operation).transcript answer world = earlier ++ refused :: later →
      refused.refusal? = some cause →
      (∃ failure, (world.run operation).1 = .error failure) ∧
        ∀ exchange ∈ later, ∃ event, exchange.asked = .report event

/-- An operation that fails fast and keeps to a schedule obeys the prefix law. -/
theorem obeysPrefixLaw_of_failsFast
    {explains : Request → Cause → Failure → Prop}
    {left : List Stage → Prop}
    {schedule : List Stage}
    (failsFast : operation.FailsFast explains)
    (keeps : (ExceptT.run operation).KeepsTo left schedule)
    (world : World) :
    world.ObeysPrefixLaw operation schedule := by
  have begins : world.record operation <+: world.withoutFaults.record operation := by
    rw [record_withoutFaults]
    exact recordOf_prefix_of_failsFast failsFast world.matches_calm
  refine ⟨world.cloud_calls_run operation, world.journal_run operation, begins, ?_, ?_, ?_⟩
  · intro value succeeds
    rw [record_withoutFaults]
    exact (runsAs_of_eq_ok failsFast world.matches_calm succeeds).recorded.symm
  · refine KeepsTo.of_prefix ?_ begins
    have effects : (world.calm.run operation).2.effects = _ :=
      CalmWorld.effects_run (ExceptT.run operation) world.calm
    rw [record_withoutFaults, effects]
    exact keeps.effects CalmWorld.answer world.calm
  · intro earlier refused later cause split refusal
    rcases failsFast.stops_after answer world split refusal with ⟨⟨failure, fails, -⟩, onlyReports⟩
    exact ⟨⟨failure, fails⟩, onlyReports⟩

end World

namespace Controller

/-- Cycles and removals obey the prefix law in every world, and security groups come last in a
cycle. -/
theorem prefix_law
    (controller : Controller)
    (world : World) :
    (∀ ingress,
      world.ObeysPrefixLaw (controller.reconcile ingress) controller.cycleSchedule ∧
        ∀ earlier association later,
          world.record (controller.reconcile ingress) =
            earlier ++ .collaborator (.convergeSecurityGroups association) :: later →
          later = []) ∧
      ∀ key, world.ObeysPrefixLaw (controller.delete key) removalSchedule := by
  constructor
  · intro ingress
    have law :=
      World.obeysPrefixLaw_of_failsFast (controller.failsFast_reconcile ingress)
        (controller.keepsTo_reconcile ingress) world
    refine ⟨law, ?_⟩
    intro earlier association later split
    have keeps := law.inOrder
    rw [split] at keeps
    rcases controller.cycleSchedule_eq_append with ⟨front, ends, unnamed⟩
    exact keeps.nothing_after_last ends unnamed
  · intro key
    exact World.obeysPrefixLaw_of_failsFast (controller.failsFast_delete key)
      (controller.keepsTo_delete key) world

end Controller

end IngressConvergence
