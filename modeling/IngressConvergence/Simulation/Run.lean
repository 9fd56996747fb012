import IngressConvergence.Program
import IngressConvergence.Simulation.World

/-!
# Running programs in a world

The requests of a program are answered by the world, one after the other.
-/

namespace IngressConvergence.World

/-- What the world replies to a request, and the world after it. -/
def answer : (asked : Request) → World → asked.Reply × World
  | .annotationsOf key, world => (world.store.annotationsOf world.context world.timeline key, world)
  | .configuration, world => (world.store.configuration, world)
  | .checkpoint operation, world => (world.check operation, world)
  | .cloud call, world => world.cloudCall call
  | .collaborator call, world => world.collaboratorCall call
  | .report event, world => ((), { world with log := world.log ++ [event] })

/-- Run an attempt in a world. -/
def run {Failure Value : Type} (world : World) (attempt : Attempt Failure Value) :
    Except Failure Value × World :=
  Program.run answer (ExceptT.run attempt) world

end IngressConvergence.World
