import IngressConvergence.Proofs.FailFast.Cycle
import IngressConvergence.Proofs.World.Moments

/-!
# No effect under a context that has ended

A cycle reaches the cloud and its collaborators under a context that may be cancelled at any moment or
run out of time.  Nothing is recorded and no table changes at a moment at which the context has ended,
and a cycle that comes to such a moment fails, with an error that is still known as a cancellation
however it was wrapped.  `Controller.respects_context` shows this for cycles and removals.
-/

namespace IngressConvergence

namespace World

variable {Value : Type} {world : World} {operation : Attempt ControllerError Value}

/-- An operation respects the context of a world. -/
structure RespectsContext
    (world : World)
    (operation : Attempt ControllerError Value) : Prop where
  /-- Something is recorded or a table changes only at moments at which the context is live. -/
  actsWhileLive :
    Path ActsWhileLive world (world.history operation) (world.run operation).2
  /-- If the context has ended when a request under it is made or decided, the operation fails as
  cancelled. -/
  failsAsCancelled :
    ∀ exchange ∈ (ExceptT.run operation).transcript answer world,
      exchange.asked.isExternal = true →
      ¬ exchange.before.IsLive ∨ ¬ (exchange.before.reached exchange.asked).IsLive →
      ∃ error, (world.run operation).1 = .error error ∧ error.isCancellation = true

/-- An operation that fails fast, with errors that go back to what was refused, respects the
context. -/
theorem respectsContext_of_failsFast
    (failsFast : operation.FailsFast ControllerError.GoesBackTo)
    (world : World) :
    world.RespectsContext operation where
  actsWhileLive := world.path_history operation
  failsAsCancelled := by
    intro exchange member external ended
    have dead : ¬ (exchange.before.reached exchange.asked).IsLive := by
      rcases ended with before | reached
      · intro live
        exact before ((later_reached exchange.asked exchange.before).isLive live)
      · exact reached
    rcases refused_of_not_isLive external dead with ⟨cause, refused, isCancellation⟩
    rw [← Program.reply_of_mem_transcript answer exchange member] at refused
    rcases List.append_of_mem member with ⟨earlier, later, split⟩
    rcases failsFast.stops_after answer world split refused with ⟨⟨error, fails, goesBack⟩, -⟩
    refine ⟨error, fails, ?_⟩
    have same : (Cause.controller error).isCancellation = cause.isCancellation :=
      goesBack.isCancellation_eq
    exact same.trans isCancellation

end World

namespace Controller

/-- Cycles and removals respect the context of every world. -/
theorem respects_context
    (controller : Controller)
    (world : World) :
    (∀ ingress, world.RespectsContext (controller.reconcile ingress)) ∧
      ∀ key, world.RespectsContext (controller.delete key) :=
  ⟨fun ingress => World.respectsContext_of_failsFast (controller.failsFast_reconcile ingress) world,
    fun key => World.respectsContext_of_failsFast (controller.failsFast_delete key) world⟩

end Controller

end IngressConvergence
