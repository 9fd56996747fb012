import IngressConvergence.Proofs.Abidance
import IngressConvergence.Proofs.World.Calls
import IngressConvergence.Simulation.Run

/-!
# Programs that account for their failures

Reports that are more than information have to do with failures.  An attempt accounts for its failures if,
whatever is replied, its grave reports are those that are owed to the failure with which it ends, and none
where it succeeds.  The property is kept by all the ways in which attempts are put together.

What it means for runs is `Attempt.Accounts.accounted`, and that the log of a world is what its runs
reported is `World.log_run`.
-/

namespace IngressConvergence

/-! ## Reports -/

/-- The event that is reported by a request, if it is a report. -/
def Request.event? : Request → Option Event
  | .report event => some event
  | _ => none

/-- The events that were reported among some requests. -/
def Answered.events (answers : List Answered) : List Event :=
  answers.filterMap fun answered => answered.asked.event?

theorem Answered.events_cons
    (first : Answered)
    (rest : List Answered) :
    events (first :: rest) = first.asked.event?.toList ++ events rest := by
  rw [events, List.filterMap_cons]
  cases first.asked.event? <;> rfl

/-- The events that are more than information. -/
def Event.grave (events : List Event) : List Event :=
  events.filter fun event => event.level ≠ .information

/-- The events of a level, in their order. -/
def Event.ofLevel
    (level : Level)
    (events : List Event) : List Event :=
  events.filter fun event => event.level = level

/-- What is grave among the events of a grave level are all of them. -/
theorem Event.ofLevel_grave
    {level : Level}
    (isGrave : level ≠ .information)
    (events : List Event) :
    ofLevel level (grave events) = ofLevel level events := by
  rw [ofLevel, grave, List.filter_filter]
  refine List.filter_congr fun event _ => ?_
  by_cases same : event.level = level <;> simp [same, isGrave]

/-- What is reported in a run, in its order. -/
def Program.reports
    {State Value : Type}
    (answer : (asked : Request) → State → asked.Reply × State)
    (program : Program Value)
    (state : State) : List Event :=
  Answered.events ((program.transcript answer state).map Exchange.answered)

/-- What is grave among the events that were reported until some point. -/
def Answered.graves (answers : List Answered) : List Event :=
  Event.grave (events answers)

theorem Answered.graves_append
    (answers others : List Answered) :
    graves (answers ++ others) = graves answers ++ graves others := by
  rw [graves, events, List.filterMap_append]
  exact List.filter_append _ _

theorem Answered.graves_of_silent
    {asked : Request}
    (silent : asked.event? = none)
    (reply : asked.Reply) :
    graves [⟨asked, reply⟩] = [] := by
  rw [graves, events, List.filterMap_cons, silent]
  rfl

theorem Answered.graves_report
    (event : Event)
    (reply : (Request.report event).Reply) :
    graves [⟨.report event, reply⟩] = Event.grave [event] := rfl

/-! ## Attempts that account for their failures -/

namespace Attempt

variable {Failure Other First Second Value : Type}

/-- Grave reports fit a result: there are none at a success, and those that are owed to it at a failure. -/
inductive Accounted
    (owed : Failure → List Event → Prop)
    (graves : List Event) : Except Failure Value → Prop where
  | success
      (value : Value)
      (quiet : graves = []) :
      Accounted owed graves (.ok value)
  | failure
      {failure : Failure}
      (isOwed : owed failure graves) :
      Accounted owed graves (.error failure)

/-- An attempt whose grave reports fit its result, whatever is replied.  Nothing grave was reported before
it, because an attempt is followed by another only where it has succeeded. -/
def Accounts
    (owed : Failure → List Event → Prop)
    (attempt : Attempt Failure Value) : Prop :=
  ∀ past, Answered.graves past = [] →
    Program.Abides (fun _ _ => True)
      (fun answers result => Accounted owed (Answered.graves answers) result) past
      (ExceptT.run attempt)

/-- An attempt that reports nothing but information. -/
def IsQuiet (attempt : Attempt Failure Value) : Prop :=
  attempt.Accounts fun _ graves => graves = []

namespace Accounts

variable {owed : Failure → List Event → Prop}

theorem mono
    {owed' : Failure → List Event → Prop}
    {attempt : Attempt Failure Value}
    (accounts : Accounts owed attempt)
    (implies : ∀ failure graves, owed failure graves → owed' failure graves) :
    Accounts owed' attempt := by
  intro past quiet
  refine Program.Abides.mono (accounts past quiet) fun after result accounted => ?_
  cases accounted with
  | success value quiet => exact .success value quiet
  | failure isOwed => exact .failure (implies _ _ isOwed)

theorem pure
    (value : Value) :
    Accounts owed (Pure.pure value : Attempt Failure Value) :=
  fun _ quiet => .done (.success value quiet)

theorem ofExcept
    {result : Except Failure Value}
    (isOwed : ∀ failure, result = .error failure → owed failure []) :
    Accounts owed (ExceptT.mk (.done result) : Attempt Failure Value) := by
  intro past quiet
  cases result with
  | ok value => exact .done (.success value quiet)
  | error failure =>
      refine .done (.failure ?_)
      rw [quiet]
      exact isOwed failure rfl

theorem throw
    {failure : Failure}
    (isOwed : owed failure []) :
    Accounts owed (MonadExcept.throw failure : Attempt Failure Value) :=
  ofExcept fun _ same => Except.error.inj same ▸ isOwed

theorem ite
    {condition : Prop}
    [Decidable condition]
    {first second : Attempt Failure Value}
    (whenTrue : Accounts owed first)
    (whenFalse : Accounts owed second) :
    Accounts owed (if condition then first else second) := by
  by_cases holds : condition
  · rwa [if_pos holds]
  · rwa [if_neg holds]

theorem bind
    {attempt : Attempt Failure First}
    {next : First → Attempt Failure Second}
    (first : Accounts owed attempt)
    (rest : ∀ value, Accounts owed (next value)) :
    Accounts owed (attempt >>= next) := by
  intro past quiet
  rw [ExceptT.run_bind]
  refine Program.Abides.bind (first past quiet) fun after result accounted => ?_
  cases accounted with
  | success value quiet => exact rest value after quiet
  | failure isOwed => exact .done (.failure isOwed)

theorem mapFailure
    {owed : Other → List Event → Prop}
    {attempt : Attempt Failure Value}
    {wrap : Failure → Other}
    (first : Accounts (fun failure => owed (wrap failure)) attempt) :
    Accounts owed (attempt.mapFailure wrap) := by
  intro past quiet
  refine Program.Abides.bind (first past quiet) fun after result accounted => .done ?_
  cases accounted with
  | success value quiet => exact .success value quiet
  | failure isOwed => exact .failure isOwed

/-- What is reported at the end of an attempt is owed to its failure too. -/
theorem reporting
    {event : Except Failure Value → Option Event}
    {attempt : Attempt Failure Value}
    (first :
      Accounts
        (fun failure graves => owed failure (graves ++ Event.grave (event (.error failure)).toList))
        attempt)
    (quietSuccess : ∀ value, Event.grave (event (.ok value)).toList = []) :
    Accounts owed (attempt.reporting event) := by
  intro past quiet
  refine Program.Abides.bind (first past quiet) fun after result accounted => ?_
  have fits : Accounted owed (Answered.graves after ++ Event.grave (event result).toList) result := by
    cases accounted with
    | success value quiet =>
        rw [quiet, quietSuccess value]
        exact .success value rfl
    | failure isOwed => exact .failure isOwed
  cases reported : event result with
  | none =>
      rw [reported, Option.toList_none, Event.grave, List.filter_nil, List.append_nil] at fits
      exact .done fits
  | some told =>
      rw [reported, Option.toList_some, ← Answered.graves_report told (),
        ← Answered.graves_append] at fits
      exact .request trivial fun _ => .done fits

/-- A request that is no report, on its own. -/
theorem single
    {asked : Request}
    {result : asked.Reply → Except Failure Value}
    (silent : asked.event? = none)
    (isOwed : ∀ reply failure, result reply = .error failure → owed failure []) :
    Accounts owed
      (ExceptT.mk (.request asked fun reply => .done (result reply)) : Attempt Failure Value) := by
  intro past quiet
  refine .request trivial fun reply => ?_
  refine ofExcept (isOwed reply) _ ?_
  rw [Answered.graves_append, quiet, Answered.graves_of_silent silent]
  rfl

theorem owed_of_mapError
    {reply : Except Other Value}
    {wrap : Other → Failure}
    {failure : Failure}
    (isOwed : ∀ error, owed (wrap error) [])
    (fails : reply.mapError wrap = .error failure) :
    owed failure [] := by
  cases reply with
  | ok value => cases fails
  | error error =>
      cases fails
      exact isOwed error

theorem cloud
    {call : CloudCall}
    {wrap : CloudError → Failure}
    (isOwed : ∀ error, owed (wrap error) []) :
    Accounts owed (Attempt.cloud call wrap) :=
  single rfl fun _ _ fails => owed_of_mapError isOwed fails

theorem collaborator
    {call : CollaboratorCall}
    {wrap : Cause → Failure}
    (isOwed : ∀ cause, owed (wrap cause) []) :
    Accounts owed (Attempt.collaborator call wrap) :=
  single rfl fun _ _ fails => owed_of_mapError isOwed fails

theorem checkpoint
    {operation : String}
    {wrap : CloudError → Failure}
    (isOwed : ∀ error, owed (wrap error) []) :
    Accounts owed (Attempt.checkpoint operation wrap) :=
  single rfl fun _ _ fails => owed_of_mapError isOwed fails

theorem annotationsOf
    {key : IngressKey}
    {wrap : Cause → Failure}
    (isOwed : ∀ cause, owed (wrap cause) []) :
    Accounts owed (Attempt.annotationsOf key wrap) :=
  single rfl fun _ _ fails => owed_of_mapError isOwed fails

theorem configuration :
    Accounts owed Attempt.configuration :=
  single rfl fun _ _ fails => nomatch fails

theorem report
    {event : Event}
    (isInformation : event.level = .information) :
    Accounts owed (Attempt.report event) := by
  intro past quiet
  refine .request trivial fun reply => .done (.success () ?_)
  rw [Answered.graves_append, quiet, Answered.graves_report, Event.grave, List.filter_cons]
  rw [if_neg (by simp [isInformation])]
  rfl

/-! ### Runs -/

/-- The grave reports of a run fit its result. -/
theorem accounted
    {State : Type}
    {attempt : Attempt Failure Value}
    (accounts : Accounts owed attempt)
    (answer : (asked : Request) → State → asked.Reply × State)
    (state : State) :
    Accounted owed (Event.grave ((ExceptT.run attempt).reports answer state))
      ((ExceptT.run attempt).run answer state).1 :=
  (accounts [] rfl).ends_run answer state

end Accounts

end Attempt

/-! ## The log of a world -/

namespace World

variable {world later : World}

theorem CloudCallFate.log_eq
    {call : CloudCall}
    {reply : Except CloudError call.Answer}
    (fate : CloudCallFate world call reply later) :
    later.log = world.log := by
  cases fate with
  | ended isCancellation moved dead => exact moved.log
  | failed placed waited live moved => exact (waited.trans moved).log
  | received waited live moved => exact moved.log.trans waited.log

theorem CollaboratorCallFate.log_eq
    {call : CollaboratorCall}
    {reply : Except Cause call.Answer}
    (fate : CollaboratorCallFate world call reply later) :
    later.log = world.log := by
  cases fate with
  | ended isCancellation moved dead => exact moved.log
  | failed placed waited live moved => exact moved.log.trans waited.log
  | answered waited live moved => exact moved.log.trans waited.log

theorem log_answer
    (asked : Request)
    (world : World) :
    (answer asked world).2.log = world.log ++ asked.event?.toList := by
  cases asked with
  | cloud call => exact (world.cloudCall_fate call).log_eq.trans (List.append_nil _).symm
  | collaborator call => exact (world.collaboratorCall_fate call).log_eq.trans (List.append_nil _).symm
  | report event => rfl
  | _ => exact (List.append_nil _).symm

/-- A run adds to the log what it reports. -/
theorem log_run
    {Value : Type}
    (world : World)
    (program : Program Value) :
    (program.run answer world).2.log = world.log ++ program.reports answer world := by
  induction program generalizing world with
  | done value => exact (List.append_nil _).symm
  | request asked next ih =>
      rw [Program.run_request, ih, log_answer, Program.reports, Program.reports,
        Program.transcript_request, List.map_cons, Answered.events_cons, List.append_assoc]
      rfl

end World

end IngressConvergence
