import IngressConvergence.Annotations
import IngressConvergence.Cloud.Call
import IngressConvergence.Collaboration
import IngressConvergence.Configuration.Basic
import IngressConvergence.Event

/-!
# Programs of requests

A cycle of the controller is a program: it is done with a value, or it makes a request and goes on
with the reply.  Everything outside the controller is reached by a request, so a program says on its
own in which order a cycle acts, whatever the replies are.  `Program.run` answers the requests from
a state; other readings of the same program answer them otherwise.
-/

namespace IngressConvergence

/-! ## Requests -/

/-- What a cycle asks of the world. -/
inductive Request where
  | annotationsOf (key : IngressKey)
  | configuration
  | checkpoint (operation : String)
  | cloud (call : CloudCall)
  | collaborator (call : CollaboratorCall)
  | report (event : Event)

/-- What comes back for a request; where the request may be refused, a result. -/
def Request.Reply : Request → Type
  | .annotationsOf _ => Except Cause IngressAnnotations
  | .configuration => Configuration
  | .checkpoint _ => Except CloudError Unit
  | .cloud call => Except CloudError call.Answer
  | .collaborator call => Except Cause call.Answer
  | .report _ => Unit

/-! ## Programs -/

/-- A program: done, or a request and what to do with its reply. -/
inductive Program (Value : Type) : Type where
  | done (value : Value)
  | request (request : Request) (next : request.Reply → Program Value)

namespace Program

variable {First Second Third : Type}

/-- Do one program, and then the one that its value asks for. -/
def bind : Program First → (First → Program Second) → Program Second
  | .done value, next => next value
  | .request asked after, next => .request asked fun reply => (after reply).bind next

instance : Monad Program where
  pure := .done
  bind := bind

@[simp]
theorem done_bind (value : First) (next : First → Program Second) :
    (Program.done value).bind next = next value := rfl

@[simp]
theorem bind_done (program : Program First) : program.bind .done = program := by
  induction program with
  | done value => rfl
  | request asked after ih =>
    simp only [bind]
    congr 1
    funext reply
    exact ih reply

theorem bind_assoc (program : Program First) (next : First → Program Second)
    (last : Second → Program Third) :
    (program.bind next).bind last = program.bind fun value => (next value).bind last := by
  induction program with
  | done value => rfl
  | request asked after ih =>
    simp only [bind]
    congr 1
    funext reply
    exact ih reply

instance : LawfulMonad Program :=
  LawfulMonad.mk' Program bind_done (fun _ _ => rfl) bind_assoc

/-- Answer the requests of a program from a state. -/
def run {State : Type} (answer : (asked : Request) → State → asked.Reply × State) :
    Program First → State → First × State
  | .done value, state => (value, state)
  | .request asked next, state =>
    let (reply, after) := answer asked state
    (next reply).run answer after

/-- A program runs by running its first part and then the rest on what that left. -/
theorem run_bind {State : Type} (answer : (asked : Request) → State → asked.Reply × State)
    (program : Program First) (next : First → Program Second) (state : State) :
    (program.bind next).run answer state =
      (next (program.run answer state).1).run answer (program.run answer state).2 := by
  induction program generalizing state with
  | done value => rfl
  | request asked after ih => exact ih _ _

end Program

/-! ## Attempts -/

/-- A program that may fail. -/
abbrev Attempt (Failure Value : Type) := ExceptT Failure Program Value

namespace Attempt

variable {Failure Value : Type}

/-- Make a call to the cloud; a failure is put into words by `wrap`. -/
def cloud (call : CloudCall) (wrap : CloudError → Failure) : Attempt Failure call.Answer :=
  ExceptT.mk (.request (.cloud call) fun reply => .done (reply.mapError wrap))

/-- Make a call to a collaborator; a failure is put into words by `wrap`. -/
def collaborator (call : CollaboratorCall) (wrap : Cause → Failure) :
    Attempt Failure call.Answer :=
  ExceptT.mk (.request (.collaborator call) fun reply => .done (reply.mapError wrap))

/-- Ask whether a step may start; a refusal is put into words by `wrap`. -/
def checkpoint (operation : String) (wrap : CloudError → Failure) : Attempt Failure Unit :=
  ExceptT.mk (.request (.checkpoint operation) fun reply => .done (reply.mapError wrap))

/-- Ask for the annotations of an ingress; a failure is put into words by `wrap`. -/
def annotationsOf (key : IngressKey) (wrap : Cause → Failure) :
    Attempt Failure IngressAnnotations :=
  ExceptT.mk (.request (.annotationsOf key) fun reply => .done (reply.mapError wrap))

/-- Ask for the configuration in force, which cannot fail. -/
def configuration : Attempt Failure Configuration :=
  ExceptT.mk (.request .configuration fun reply => .done (.ok reply))

/-- Report an event, which cannot fail. -/
def report (event : Event) : Attempt Failure Unit :=
  ExceptT.mk (.request (.report event) fun _ => .done (.ok ()))

/-- Put the failure of an attempt into other words. -/
def mapFailure {Other : Type} (wrap : Failure → Other) (attempt : Attempt Failure Value) :
    Attempt Other Value :=
  ExceptT.mk (attempt.run.bind fun result => .done (result.mapError wrap))

/-- Report an event that depends on how an attempt ended, if there is one to report. -/
def reporting (attempt : Attempt Failure Value) (event : Except Failure Value → Option Event) :
    Attempt Failure Value :=
  ExceptT.mk (attempt.run.bind fun result =>
    match event result with
    | some event => .request (.report event) fun _ => .done result
    | none => .done result)

end Attempt

end IngressConvergence
