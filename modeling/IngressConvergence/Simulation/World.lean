import IngressConvergence.Cloud.Service
import IngressConvergence.Collaboration
import IngressConvergence.Event
import IngressConvergence.Store

/-!
# A world to run a controller in

The world holds everything that a controller reaches: time and the context of the calls, the cloud,
the store, and collaborators that follow a script.  Faults are placed by hooks.  A hook belongs to
one point, which is an operation of the cloud or a call to a collaborator, and acts on the next call
that comes by there, once.
-/

namespace IngressConvergence

/-- What happens to the next call at a point.  Several of these may come together. -/
structure Hook where
  /-- The context is cancelled before the call. -/
  cancelsBefore : Bool := false
  /-- The context is cancelled after the call. -/
  cancelsAfter : Bool := false
  /-- The call waits before it does anything. -/
  delay : Option Nat := none
  failure : Option Cause := none
deriving DecidableEq

/-- Everything that a controller reaches, and what it was seen to do. -/
structure World where
  timeline : Timeline
  context : CallContext
  cloud : CloudService
  store : Store
  hooks : Table Hook
  /-- The target groups that the collaborator for them answers, unless it makes up its own. -/
  targetGroups : Option (List TargetGroup)
  /-- The calls that collaborators took, in their order. -/
  journal : List CollaboratorCall
  /-- What was reported, in its order. -/
  log : List Event

namespace World

/-- A world in which nothing has happened, with a cloud in which there is nothing. -/
def start (region : String) (configuration : Configuration) : World :=
  let (context, timeline) := CallContext.fresh .start
  { timeline, context, cloud := .empty region, store := .empty configuration, hooks := ∅,
    targetGroups := none, journal := [], log := [] }

/-! ## Time and context -/

/-- Cancel the context. -/
def cancel (world : World) : World :=
  { world with timeline := world.timeline.cancel world.context.token }

/-- Cancel the context if that is asked for. -/
def cancelIf (world : World) (asked : Bool) : World :=
  if asked then world.cancel else world

/-- Go on with a fresh context, whose deadline lies the given time ahead, if any is given. -/
def renewContext (world : World) (timeout : Option Nat) : World :=
  let (context, timeline) := CallContext.fresh world.timeline
  { world with
    timeline
    context :=
      match timeout with
      | some duration => context.withTimeout timeline duration
      | none => context }

/-- Let some time pass. -/
def advance (world : World) (duration : Nat) : World :=
  { world with timeline := world.timeline.advance duration }

/-- Whether an operation may start under the context; if not, why. -/
def check (world : World) (operation : String) : Except CloudError Unit :=
  world.context.check world.timeline operation

/-- Wait under the context, which may end before the wait does. -/
def wait (world : World) (operation : String) (duration : Nat) :
    Except CloudError Unit × World :=
  let outcome := world.context.run world.timeline operation duration (.ok ()) none
  (outcome.result, { world with timeline := world.timeline.advanceTo outcome.instant })

/-! ## Hooks -/

/-- Change the hook of a point, which may not have one yet. -/
def setHook (world : World) (point : String) (change : Hook → Hook) : World :=
  { world with
    hooks := world.hooks.insert point (change ((world.hooks.lookup point).getD {})) }

/-- The hook of a point, which is used up. -/
def takeHook (world : World) (point : String) : Hook × World :=
  ((world.hooks.lookup point).getD {}, { world with hooks := world.hooks.erase point })

/-! ## The cloud -/

/-- Change what the cloud keeps, from outside of the controller. -/
def changeTables (world : World) (change : CloudTables → CloudTables) : World :=
  { world with cloud := { world.cloud with tables := change world.cloud.tables } }

/-- A call to the cloud on which no hook acts. -/
def plainCloudCall (world : World) (call : CloudCall) :
    Except CloudError call.Answer × World :=
  let (reply, cloud) := world.cloud.call world.context world.timeline call
  (reply, { world with cloud })

/-- The failure that a hook places at the cloud; one that is no failure of the cloud is told by its
message. -/
def cloudFailure (failure : Cause) : CloudError :=
  match failure.core with
  | .cloud error => error
  | other => .invalidRequest other.message

/-- A call to the cloud after its wait, with the failure of its hook. -/
def failingCloudCall (world : World) (call : CloudCall) (failure : Option Cause) :
    Except CloudError call.Answer × World :=
  match failure with
  | some failure => (.error (cloudFailure failure), world)
  | none => world.plainCloudCall call

/-- A call to the cloud with the wait and the failure of its hook. -/
def delayedCloudCall (world : World) (call : CloudCall) (hook : Hook) :
    Except CloudError call.Answer × World :=
  match world.wait call.operation (hook.delay.getD 0) with
  | (.ok (), world) => world.failingCloudCall call hook.failure
  | (.error error, world) => (.error error, world)

/-- A call to the cloud, on which the hook of its operation acts. -/
def cloudCall (world : World) (call : CloudCall) : Except CloudError call.Answer × World :=
  let (hook, world) := world.takeHook call.operation
  let (reply, world) := (world.cancelIf hook.cancelsBefore).delayedCloudCall call hook
  (reply, world.cancelIf hook.cancelsAfter)

/-! ## Collaborators -/

/-- The target groups that are made up for an ingress without a script: one, for port 80. -/
def inventedTargetGroups (ingress : Ingress) : List TargetGroup :=
  let name := ingress.name?.getD ""
  [⟨"arn:tg/" ++ name, name ++ "-tg", name, 80⟩]

/-- What a collaborator answers when it does not fail. -/
def collaboratorAnswer (world : World) : (call : CollaboratorCall) → call.Answer
  | .convergeTargetGroups ingress =>
    TargetGroupSet.ofList (world.targetGroups.getD (inventedTargetGroups ingress))
  | .convergeAttributes _ _ => ()
  | .convergeListeners _ _ _ => ()
  | .collectTargetGroups _ => ()
  | .convergeSecurityGroups _ => ()
  | .deleteSecurityGroups _ => ()
  | .deleteListeners _ => ()
  | .deleteTargetGroups _ => ()

/-- A call that a collaborator takes: it is written down, and then the hook acts. -/
def takeCall (world : World) (call : CollaboratorCall) (hook : Hook) :
    Except Cause call.Answer × World :=
  let taken := { world with journal := world.journal ++ [call] }.cancelIf hook.cancelsAfter
  match hook.failure with
  | some failure => (.error failure, taken)
  | none => (.ok (taken.collaboratorAnswer call), taken)

/-- A call to a collaborator after its wait; it is not taken when the context has ended. -/
def checkedCall (world : World) (call : CollaboratorCall) (hook : Hook) :
    Except Cause call.Answer × World :=
  match world.check call.point with
  | .ok () => world.takeCall call hook
  | .error error => (.error (.cloud error), world)

/-- A call to a collaborator with the wait of its hook. -/
def delayedCall (world : World) (call : CollaboratorCall) (hook : Hook) :
    Except Cause call.Answer × World :=
  match hook.delay with
  | none => world.checkedCall call hook
  | some duration =>
    match world.wait call.point duration with
    | (.ok (), world) => world.checkedCall call hook
    | (.error error, world) => (.error (.cloud error), world)

/-- A call to a collaborator, on which the hook of its point acts. -/
def collaboratorCall (world : World) (call : CollaboratorCall) :
    Except Cause call.Answer × World :=
  let (hook, world) := world.takeHook call.point
  (world.cancelIf hook.cancelsBefore).delayedCall call hook

end World

end IngressConvergence
