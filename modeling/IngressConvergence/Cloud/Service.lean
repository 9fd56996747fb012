import IngressConvergence.CallContext
import IngressConvergence.Cloud.Tables

/-!
# The cloud as a service

The service answers calls from its tables.  It records every call that reaches it before the call
takes effect, and it can be told to fail the next call of an operation once.  A call whose context
has ended does not reach the service: it is not recorded and uses up no failure.
-/

namespace IngressConvergence

/-- The cloud: its tables, the calls that reached it, and the failures that wait for calls. -/
structure CloudService where
  tables : CloudTables
  /-- The recorded calls, in their order. -/
  calls : List CloudCall
  /-- The message with which the next call of an operation fails, by operation. -/
  failures : Table String

namespace CloudService

/-- The cloud of a region, in which there is nothing yet. -/
def empty (region : String) : CloudService := ⟨.empty region, [], ∅⟩

/-- The recorded calls that may have changed the cloud. -/
def mutatingCalls (service : CloudService) : List CloudCall :=
  service.calls.filter (·.isMutating)

/-- Let the next call of an operation fail; of several failures the last one counts. -/
def failNext (service : CloudService) (operation message : String) : CloudService :=
  { service with failures := service.failures.insert operation message }

/-- Forget the recorded calls. -/
def clearCalls (service : CloudService) : CloudService :=
  { service with calls := [] }

/-- Take a call: it is recorded, and then it fails if a failure waits for its operation, which is
used up, or takes effect on the tables. -/
def receive (service : CloudService) (call : CloudCall) :
    Except CloudError call.Answer × CloudService :=
  let recorded := { service with calls := service.calls ++ [call] }
  match service.failures.lookup call.operation with
  | some message =>
    (.error (.api call.operation message),
      { recorded with failures := service.failures.erase call.operation })
  | none =>
    match service.tables.perform call with
    | .ok (answer, tables) => (.ok answer, { recorded with tables })
    | .error error => (.error error, recorded)

/-- A call under a context, which reaches the service unless the context has ended. -/
def call (service : CloudService) (context : CallContext) (timeline : Timeline)
    (call : CloudCall) : Except CloudError call.Answer × CloudService :=
  match context.check timeline call.operation with
  | .ok () => service.receive call
  | .error error => (.error error, service)

end CloudService

end IngressConvergence
