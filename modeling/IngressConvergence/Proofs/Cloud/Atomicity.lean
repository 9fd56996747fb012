import IngressConvergence.Proofs.Context.Race
import IngressConvergence.Proofs.World.Unchanged

/-!
# Calls are answered as a whole, and a failure is met once

A call under a context that has ended does not reach the service.  Every other call is put on record and
then settled: it meets the failure that waits for its operation, or the tables answer it, and it changes
them only if it succeeds.  Over a history of calls the last thing that concerned an operation decides what
waits for it.  Telling an operation to fail can therefore be put off until a call of the operation comes
by, which meets the failure and uses it up.  The main statement is `CloudService.failsAtomically`.
-/

namespace IngressConvergence.CloudService

variable {service after : CloudService} {context : CallContext} {timeline : Timeline} {call : CloudCall}
  {reply : Except CloudError call.Answer} {operation message : String}

/-! ## Settling a call -/

/-- The service with a call on record that has yet to take effect. -/
def recording
    (service : CloudService)
    (call : CloudCall) : CloudService :=
  { service with calls := service.calls ++ [call] }

/-- What a call that is on record comes to: it meets the failure that waits for its operation, or the
tables answer it. -/
def settle
    (service : CloudService)
    (call : CloudCall) : Except CloudError call.Answer × CloudService :=
  match service.failures.lookup call.operation with
  | some message =>
    (.error (.api call.operation message),
      { service with failures := service.failures.erase call.operation })
  | none =>
    match service.tables.perform call with
    | .ok (answer, tables) => (.ok answer, { service with tables })
    | .error error => (.error error, service)

/-- The ways in which a call is settled. -/
inductive Settles
    (service : CloudService)
    (call : CloudCall) : Except CloudError call.Answer → CloudService → Prop where
  | failed
      {message : String}
      (waits : service.failures.lookup call.operation = some message) :
      Settles service call (.error (.api call.operation message))
        { service with failures := service.failures.erase call.operation }
  | refused
      {error : CloudError}
      (noneWaits : service.failures.lookup call.operation = none)
      (refuses : service.tables.perform call = .error error) :
      Settles service call (.error error) service
  | performed
      {answer : call.Answer}
      {tables : CloudTables}
      (noneWaits : service.failures.lookup call.operation = none)
      (performs : service.tables.perform call = .ok (answer, tables)) :
      Settles service call (.ok answer) { service with tables }

theorem settles
    (service : CloudService)
    (call : CloudCall) :
    Settles service call (service.settle call).1 (service.settle call).2 := by
  rw [settle]
  cases waits : service.failures.lookup call.operation with
  | some message => exact .failed waits
  | none =>
      cases performs : service.tables.perform call with
      | ok done => exact .performed waits performs
      | error error => exact .refused waits performs

/-- A call that fails, and one that only reads, leaves the tables as they are. -/
theorem Settles.tables_eq
    (settled : Settles service call reply after)
    (harmless : call.isMutating = true → ∃ error, reply = .error error) :
    after.tables = service.tables := by
  cases settled with
  | failed waits => rfl
  | refused noneWaits refuses => rfl
  | performed noneWaits performs =>
      cases mutates : call.isMutating with
      | false => exact CloudTables.eq_of_perform_of_not_isMutating mutates performs
      | true =>
          rcases harmless mutates with ⟨error, fails⟩
          cases fails

/-- After a call no failure waits for its operation, and the same as before for every other one. -/
theorem Settles.lookup_failures
    (settled : Settles service call reply after)
    (operation : String) :
    after.failures.lookup operation =
      if operation = call.operation then none else service.failures.lookup operation := by
  have nothingToErase (noneWaits : service.failures.lookup call.operation = none) :
      service.failures.lookup operation =
        if operation = call.operation then none else service.failures.lookup operation := by
    split
    next same => rw [same, noneWaits]
    next => rfl
  cases settled with
  | failed waits => exact Table.lookup_erase _ _ _
  | refused noneWaits refuses => exact nothingToErase noneWaits
  | performed noneWaits performs => exact nothingToErase noneWaits

/-! ## One call under its context -/

theorem receive_eq_settle
    (service : CloudService)
    (call : CloudCall) :
    service.receive call = (service.recording call).settle call := rfl

theorem call_of_isLive
    (live : context.IsLive timeline) :
    service.call context timeline call = (service.recording call).settle call := by
  rw [CloudService.call, CallContext.check_eq_ok_iff.mpr live, receive_eq_settle]

/-- What a context that has ended refuses an operation with. -/
def refusal
    (context : CallContext)
    (timeline : Timeline)
    (operation : String) : CloudError :=
  if context.isCancelled timeline then .cancelled operation else .deadlineExceeded operation

/-- A call under a context that has ended leaves the service as it is. -/
theorem call_of_not_isLive
    (ended : ¬ context.IsLive timeline) :
    service.call context timeline call =
      (.error (refusal context timeline call.operation), service) := by
  rw [CloudService.call]
  cases checked : context.check timeline call.operation with
  | ok done => exact absurd (CallContext.check_eq_ok_iff.mp checked) ended
  | error error =>
      have stops := CallContext.failureAt_of_check checked
      simp only [CallContext.failureAt, Option.any_none, Bool.or_false] at stops
      rw [refusal]
      split at stops
      next cancelled =>
        cases stops
        rw [if_pos cancelled]
      next notCancelled =>
        rw [if_neg notCancelled]
        split at stops
        · cases stops
          rfl
        · cases stops

/-- A call to the service takes no time; it is made if its race is not over before it has begun. -/
theorem call_eq_race
    (service : CloudService)
    (context : CallContext)
    (timeline : Timeline)
    (call : CloudCall) :
    let outcome := context.run timeline call.operation 0 (service.receive call).1 none
    service.call context timeline call =
      (outcome.result, if outcome.started then (service.receive call).2 else service) := by
  rw [CloudService.call, CallContext.check, CallContext.run]
  cases context.failureAt timeline call.operation none timeline.now with
  | some error => rfl
  | none => rfl

/-- A call is answered as a whole: unless its context has ended it is put on record first, and then it
takes effect or leaves every table as it was. -/
structure AnswersAtomically
    (service : CloudService)
    (context : CallContext)
    (timeline : Timeline)
    (call : CloudCall) : Prop where
  /-- A call that fails leaves every table as it was.  For one that the tables refuse this is in the type of
  `CloudTables.perform`, which gives tables on success only; what is shown is that the service then keeps
  those it had, and that a failure which waits or a context which has ended does not reach them. -/
  failsUntouched :
    ∀ error, (service.call context timeline call).1 = .error error →
      (service.call context timeline call).2.tables = service.tables
  /-- A call that only reads leaves every table as it was. -/
  readsUntouched :
    call.isMutating = false → (service.call context timeline call).2.tables = service.tables
  /-- A call whose context has ended is not recorded and uses up no failure. -/
  unseen :
    ¬ context.IsLive timeline →
      service.call context timeline call =
        (.error (refusal context timeline call.operation), service)
  /-- Every other call is on record before it takes effect. -/
  recordedFirst :
    context.IsLive timeline →
      service.call context timeline call = (service.recording call).settle call
  recordedOnce :
    context.IsLive timeline →
      (service.call context timeline call).2.calls = service.calls ++ [call]
  /-- The race of the call under its context decides whether it reaches the service. -/
  decidedByRace :
    let outcome := context.run timeline call.operation 0 (service.receive call).1 none
    service.call context timeline call =
      (outcome.result, if outcome.started then (service.receive call).2 else service)

theorem answersAtomically
    (service : CloudService)
    (context : CallContext)
    (timeline : Timeline)
    (call : CloudCall) :
    service.AnswersAtomically context timeline call := by
  have settled := (service.recording call).settles call
  by_cases live : context.IsLive timeline
  · have answered : service.call context timeline call = _ := call_of_isLive live
    rw [← answered] at settled
    constructor
    case failsUntouched => exact fun error fails => settled.tables_eq fun _ => ⟨error, fails⟩
    case readsUntouched =>
      exact fun reads => settled.tables_eq fun mutates => nomatch reads.symm.trans mutates
    case unseen => exact fun ended => absurd live ended
    case recordedFirst => exact fun _ => answered
    case recordedOnce =>
      intro _
      rw [answered]
      exact World.calls_receive service call
    case decidedByRace => exact service.call_eq_race context timeline call
  · have refused : service.call context timeline call = _ := call_of_not_isLive live
    constructor
    case failsUntouched => exact fun _ _ => by rw [refused]
    case readsUntouched => exact fun _ => by rw [refused]
    case unseen => exact fun _ => refused
    case recordedFirst => exact fun isLive => absurd isLive live
    case recordedOnce => exact fun isLive => absurd isLive live
    case decidedByRace => exact service.call_eq_race context timeline call

/-! ## Histories -/

/-- What befalls the service: a call, a failure that it is told to give, a change of its tables from
outside, or that it is made to forget its record. -/
inductive Action where
  | call (context : CallContext) (timeline : Timeline) (call : CloudCall)
  | failNext (operation message : String)
  | arrange (change : CloudTables → CloudTables)
  | clearCalls

namespace Action

/-- An action decides what waits for an operation: it tells the operation to fail, or it is a call of the
operation that reaches the service. -/
def Concerns (operation : String) : Action → Prop
  | .call context timeline call => call.operation = operation ∧ context.IsLive timeline
  | .failNext other _ => other = operation
  | .arrange _ => False
  | .clearCalls => False

/-- The call that an action puts on record, if it does. -/
def recorded : Action → List CloudCall
  | .call context timeline call =>
    match context.check timeline call.operation with
    | .ok () => [call]
    | .error _ => []
  | _ => []

end Action

/-- A call with what was replied to it. -/
abbrev Reply : Type := (call : CloudCall) × Except CloudError call.Answer

/-- The service after an action. -/
def act (service : CloudService) : Action → CloudService
  | .call context timeline call => (service.call context timeline call).2
  | .failNext operation message => service.failNext operation message
  | .arrange change => { service with tables := change service.tables }
  | .clearCalls => service.clearCalls

/-- What is replied to an action, if it is a call. -/
def replies (service : CloudService) : Action → List Reply
  | .call context timeline call => [⟨call, (service.call context timeline call).1⟩]
  | _ => []

/-- The service after a history. -/
def undergo
    (service : CloudService)
    (history : List Action) : CloudService :=
  history.foldl act service

/-- What is replied to the calls of a history, in their order. -/
def repliesTo : CloudService → List Action → List Reply
  | _, [] => []
  | service, action :: rest => service.replies action ++ (service.act action).repliesTo rest

variable {action : Action} {history between : List Action}

/-! ## What a history leaves -/

theorem recorded_of_isLive
    (live : context.IsLive timeline) :
    (Action.call context timeline call).recorded = [call] := by
  rw [Action.recorded, CallContext.check_eq_ok_iff.mpr live]

theorem recorded_of_not_isLive
    (ended : ¬ context.IsLive timeline) :
    (Action.call context timeline call).recorded = [] := by
  rcases CallContext.check_eq_error_of_not_isLive call.operation ended with ⟨error, refused, -⟩
  rw [Action.recorded, refused]

/-- Every action but the clearing of records adds to them what it makes known. -/
theorem calls_act
    (service : CloudService)
    (keepsRecord : action ≠ .clearCalls) :
    (service.act action).calls = service.calls ++ action.recorded := by
  cases action with
  | call context timeline call =>
      show (service.call context timeline call).2.calls = _
      by_cases live : context.IsLive timeline
      · rw [recorded_of_isLive live]
        exact (service.answersAtomically context timeline call).recordedOnce live
      · rw [call_of_not_isLive live, recorded_of_not_isLive live, List.append_nil]
  | clearCalls => exact absurd rfl keepsRecord
  | _ => exact (List.append_nil _).symm

theorem calls_undergo
    (service : CloudService)
    (keepsRecord : ∀ action ∈ history, action ≠ .clearCalls) :
    (service.undergo history).calls = service.calls ++ history.flatMap Action.recorded := by
  induction history generalizing service with
  | nil => exact (List.append_nil _).symm
  | cons action rest ih =>
      rcases List.forall_mem_cons.mp keepsRecord with ⟨first, later⟩
      rw [List.flatMap_cons, ← List.append_assoc, ← service.calls_act first]
      exact ih (service.act action) later

/-- Every call that could have changed something has failed. -/
def ChangesFail (replied : List Reply) : Prop :=
  ∀ reply ∈ replied, reply.1.isMutating = true → ∃ error, reply.2 = .error error

/-- Where all calls that change tables fail, only an arrangement from outside changes them. -/
theorem tables_act
    (service : CloudService)
    (notArranged : ∀ change, action ≠ .arrange change)
    (fail : ChangesFail (service.replies action)) :
    (service.act action).tables = service.tables := by
  cases action with
  | call context timeline call =>
      have atomic := service.answersAtomically context timeline call
      cases mutates : call.isMutating with
      | false => exact atomic.readsUntouched mutates
      | true =>
          rcases fail _ (List.mem_singleton_self _) mutates with ⟨error, fails⟩
          exact atomic.failsUntouched error fails
  | arrange change => exact absurd rfl (notArranged change)
  | _ => rfl

theorem tables_undergo
    (service : CloudService)
    (notArranged : ∀ action ∈ history, ∀ change, action ≠ .arrange change)
    (fail : ChangesFail (service.repliesTo history)) :
    (service.undergo history).tables = service.tables := by
  induction history generalizing service with
  | nil => rfl
  | cons action rest ih =>
      rcases List.forall_mem_cons.mp notArranged with ⟨first, later⟩
      rcases List.forall_mem_append.mp fail with ⟨failsNow, failLater⟩
      exact (ih (service.act action) later failLater).trans (service.tables_act first failsNow)

/-! ## What waits for an operation -/

/-- An action that does not concern an operation leaves what waits for it. -/
theorem lookup_failures_act_of_unconcerned
    (service : CloudService)
    (unconcerned : ¬ action.Concerns operation) :
    (service.act action).failures.lookup operation = service.failures.lookup operation := by
  cases action with
  | call context timeline call =>
      show (service.call context timeline call).2.failures.lookup operation = _
      by_cases live : context.IsLive timeline
      · rw [call_of_isLive live, ((service.recording call).settles call).lookup_failures operation]
        exact if_neg fun same => unconcerned ⟨same.symm, live⟩
      · rw [call_of_not_isLive live]
  | failNext other message =>
      exact (Table.lookup_insert _ _ _ _).trans (if_neg fun same => unconcerned same.symm)
  | arrange change => rfl
  | clearCalls => rfl

/-- After an action that concerns an operation a failure waits for it exactly if the action was to tell
the operation to fail. -/
theorem lookup_failures_act_of_concerns
    (service : CloudService)
    (concerns : action.Concerns operation) :
    (service.act action).failures.lookup operation = some message ↔
      action = .failNext operation message := by
  cases action with
  | call context timeline call =>
      rcases concerns with ⟨rfl, live⟩
      show (service.call context timeline call).2.failures.lookup call.operation = _ ↔ _
      rw [call_of_isLive live, ((service.recording call).settles call).lookup_failures, if_pos rfl]
      constructor <;> intro impossible <;> cases impossible
  | failNext other told =>
      cases concerns
      show (service.failures.insert operation told).lookup operation = some message ↔ _
      rw [Table.lookup_insert, if_pos rfl]
      simp
  | arrange change => cases concerns
  | clearCalls => cases concerns

/-- A failure waits for an operation after a history: the operation was told to meet it and nothing has
concerned the operation since, or the failure waited from the beginning and nothing has concerned the
operation at all. -/
def Waits
    (service : CloudService)
    (history : List Action)
    (operation message : String) : Prop :=
  (∃ earlier later, history = earlier ++ .failNext operation message :: later ∧
      ∀ action ∈ later, ¬ action.Concerns operation) ∨
    service.failures.lookup operation = some message ∧
      ∀ action ∈ history, ¬ action.Concerns operation

theorem waits_nil_iff :
    service.Waits [] operation message ↔ service.failures.lookup operation = some message := by
  constructor
  · rintro (⟨earlier, later, empty, -⟩ | ⟨waits, -⟩)
    · cases earlier <;> cases empty
    · exact waits
  · exact fun waits => .inr ⟨waits, fun _ member => nomatch member⟩

/-- What waits after a history with one more action at its beginning waits after the history, for a
service that has undergone that action. -/
theorem waits_cons_iff
    (service : CloudService)
    (action : Action)
    (history : List Action) :
    service.Waits (action :: history) operation message ↔
      (service.act action).Waits history operation message := by
  constructor
  · rintro (⟨earlier, later, splits, unconcerned⟩ | ⟨waits, unconcerned⟩)
    · cases earlier with
      | nil =>
          cases splits
          exact .inr ⟨(Table.lookup_insert _ _ _ _).trans (if_pos rfl), unconcerned⟩
      | cons first rest =>
          cases splits
          exact .inl ⟨rest, later, rfl, unconcerned⟩
    · rcases List.forall_mem_cons.mp unconcerned with ⟨notFirst, notRest⟩
      exact .inr ⟨(service.lookup_failures_act_of_unconcerned notFirst).trans waits, notRest⟩
  · rintro (⟨earlier, later, rfl, unconcerned⟩ | ⟨waits, unconcerned⟩)
    · exact .inl ⟨action :: earlier, later, rfl, unconcerned⟩
    · -- What waits after the first action waits because of it, or has waited before it.
      by_cases concerns : action.Concerns operation
      · cases (service.lookup_failures_act_of_concerns concerns).mp waits
        exact .inl ⟨[], history, rfl, unconcerned⟩
      · rw [service.lookup_failures_act_of_unconcerned concerns] at waits
        exact .inr ⟨waits, List.forall_mem_cons.mpr ⟨concerns, unconcerned⟩⟩

theorem lookup_failures_undergo_iff
    (service : CloudService)
    (history : List Action) :
    (service.undergo history).failures.lookup operation = some message ↔
      service.Waits history operation message := by
  induction history generalizing service with
  | nil => exact waits_nil_iff.symm
  | cons action rest ih => exact (ih (service.act action)).trans (service.waits_cons_iff action rest).symm

/-! ## Telling an operation to fail can be put off -/

/-- A failure that waits for one operation makes no difference to calls of another. -/
theorem settle_failNext_of_ne
    (service : CloudService)
    (message : String)
    (differs : call.operation ≠ operation) :
    (service.failNext operation message).settle call =
      ((service.settle call).1, (service.settle call).2.failNext operation message) := by
  have sameWaits : (service.failNext operation message).failures.lookup call.operation =
      service.failures.lookup call.operation :=
    (Table.lookup_insert _ _ _ _).trans (if_neg differs)
  have sameTables : (service.failNext operation message).tables = service.tables := rfl
  rw [settle, settle, sameWaits, sameTables]
  cases service.failures.lookup call.operation with
  | some waiting =>
      have commute := service.failures.erase_insert_of_ne differs.symm message
      exact congrArg (fun failures => (_, { service with failures })) commute
  | none =>
      cases service.tables.perform call with
      | ok done => rfl
      | error error => rfl

/-- A failure that waits for an operation makes no difference to an action that does not concern the
operation, and still waits after it. -/
theorem act_failNext_of_unconcerned
    (service : CloudService)
    (message : String)
    (unconcerned : ¬ action.Concerns operation) :
    (service.failNext operation message).replies action = service.replies action ∧
      (service.failNext operation message).act action =
        (service.act action).failNext operation message := by
  cases action with
  | call context timeline call =>
      have answered :
          (service.failNext operation message).call context timeline call =
            ((service.call context timeline call).1,
              (service.call context timeline call).2.failNext operation message) := by
        by_cases live : context.IsLive timeline
        · rw [call_of_isLive live, call_of_isLive live]
          have differs : call.operation ≠ operation := fun same => unconcerned ⟨same, live⟩
          exact (service.recording call).settle_failNext_of_ne message differs
        · rw [call_of_not_isLive live, call_of_not_isLive live]
      rw [replies, act, answered]
      exact ⟨rfl, rfl⟩
  | failNext other told =>
      have commute := service.failures.insert_comm (Ne.symm unconcerned) message told
      exact ⟨rfl, congrArg (fun failures => { service with failures }) commute⟩
  | arrange change => exact ⟨rfl, rfl⟩
  | clearCalls => exact ⟨rfl, rfl⟩

/-- An operation can as well be told to fail after a history that does not concern it. -/
theorem undergo_failNext
    (service : CloudService)
    (message : String)
    (unconcerned : ∀ action ∈ history, ¬ action.Concerns operation) :
    (service.failNext operation message).repliesTo history = service.repliesTo history ∧
      (service.failNext operation message).undergo history =
        (service.undergo history).failNext operation message := by
  induction history generalizing service with
  | nil => exact ⟨rfl, rfl⟩
  | cons action rest ih =>
      rcases List.forall_mem_cons.mp unconcerned with ⟨notFirst, notRest⟩
      rcases service.act_failNext_of_unconcerned message notFirst with ⟨sameReply, put⟩
      rcases ih (service.act action) notRest with ⟨sameReplies, putOff⟩
      rw [repliesTo, sameReply, put, sameReplies]
      refine ⟨rfl, ?_⟩
      rw [undergo, List.foldl_cons, put]
      exact putOff

/-- The service with a call on record that has met a failure. -/
def recordingFailed
    (service : CloudService)
    (call : CloudCall) : CloudService :=
  { service.recording call with failures := service.failures.erase call.operation }

/-- A call meets the failure of which its operation was told last, whatever waited before. -/
theorem call_failNext
    (service : CloudService)
    (message : String)
    (live : context.IsLive timeline) :
    (service.failNext call.operation message).call context timeline call =
      (.error (.api call.operation message), service.recordingFailed call) := by
  rw [call_of_isLive live, settle]
  have waits : ((service.failNext call.operation message).recording call).failures.lookup
      call.operation = some message :=
    (Table.lookup_insert _ _ _ _).trans (if_pos rfl)
  rw [waits]
  have usedUp := service.failures.erase_insert call.operation message
  exact congrArg (fun failures => (_, { service.recording call with failures })) usedUp

/-! ## Histories of calls -/

/-- What a history leaves on record, in the tables, and waiting. -/
structure IsKeptTrackOf
    (service : CloudService)
    (history : List Action) : Prop where
  /-- The calls whose context had not ended are on record, in their order. -/
  recorded :
    (∀ action ∈ history, action ≠ .clearCalls) →
      (service.undergo history).calls = service.calls ++ history.flatMap Action.recorded
  /-- Calls that fail and calls that only read leave every table as it was. -/
  untouched :
    (∀ action ∈ history, ∀ change, action ≠ .arrange change) →
      ChangesFail (service.repliesTo history) →
        (service.undergo history).tables = service.tables
  /-- The last action that concerned an operation decides which failure waits for it. -/
  waits_iff :
    ∀ operation message,
      (service.undergo history).failures.lookup operation = some message ↔
        service.Waits history operation message

/-- An operation that is told to fail does so once, at its first call that reaches the service. -/
structure FailsOnce
    (service : CloudService)
    (operation message : String)
    (between : List Action) : Prop where
  /-- Until then everything is replied and done as if nothing had been told. -/
  unnoticed :
    (service.failNext operation message).repliesTo between = service.repliesTo between ∧
      (service.failNext operation message).undergo between =
        (service.undergo between).failNext operation message
  /-- The call fails with the message that was told last.  It is put on record and leaves no failure
  waiting for its operation, and everything else as if nothing had been told. -/
  fails :
    ∀ (context : CallContext) (timeline : Timeline) (call : CloudCall),
      call.operation = operation → context.IsLive timeline →
        ((service.failNext operation message).undergo between).call context timeline call =
          (.error (.api operation message), (service.undergo between).recordingFailed call)
  /-- From then on no failure waits for the operation, until it is told to fail anew. -/
  failsNoMore :
    ∀ (call : CloudCall) (later : List Action),
      call.operation = operation → (∀ told, Action.failNext operation told ∉ later) →
        (((service.undergo between).recordingFailed call).undergo later).failures.lookup operation =
          none

/-- However many actions lie in between, the failure is met by the next call of its operation and by no
other. -/
theorem failsOnce
    (service : CloudService)
    (message : String)
    (unconcerned : ∀ action ∈ between, ¬ action.Concerns operation) :
    service.FailsOnce operation message between := by
  have unnoticed := service.undergo_failNext message unconcerned
  constructor
  case unnoticed => exact unnoticed
  case fails =>
    rintro context timeline call rfl live
    rw [unnoticed.2]
    exact (service.undergo between).call_failNext message live
  case failsNoMore =>
    rintro call later rfl notTold
    refine Option.eq_none_iff_forall_ne_some.mpr fun told waits => ?_
    rcases (lookup_failures_undergo_iff _ later).mp waits with
      ⟨earlier, rest, rfl, -⟩ | ⟨waitsFirst, -⟩
    · exact notTold told (List.mem_append_right earlier (List.mem_cons_self ..))
    · rw [recordingFailed, Table.lookup_erase, if_pos rfl] at waitsFirst
      cases waitsFirst

/-- In every state each call is answered as a whole, a history leaves on record, in the tables and waiting
what its calls came to, and an operation that is told to fail does so at the next call of it that reaches
the service, and makes no difference otherwise. -/
theorem failsAtomically
    (service : CloudService) :
    (∀ context timeline call, service.AnswersAtomically context timeline call) ∧
      (∀ history, service.IsKeptTrackOf history) ∧
      ∀ operation message between, (∀ action ∈ between, ¬ action.Concerns operation) →
        service.FailsOnce operation message between := by
  refine ⟨service.answersAtomically, fun history => ?_, fun _ message _ => service.failsOnce message⟩
  constructor
  case recorded => exact service.calls_undergo
  case untouched => exact service.tables_undergo
  case waits_iff => exact fun _ _ => service.lookup_failures_undergo_iff history

-- A call of another operation and a call that came too late do not meet a failure, of two failures the
-- second one is met, and it is met once.
example :
    let live : CallContext × Timeline := CallContext.fresh .start
    let late : CallContext := live.1.withDeadline 0
    let erasure := CloudCall.deleteLoadBalancer "arn"
    let history : List Action :=
      [.failNext "DeleteLoadBalancer" "first", .call live.1 live.2 (.checkWebAcl "acl"),
        .failNext "DeleteLoadBalancer" "second", .call late live.2 erasure,
        .call live.1 live.2 erasure, .call live.1 live.2 erasure]
    (empty "region").repliesTo history =
      [⟨.checkWebAcl "acl", .ok false⟩,
        ⟨erasure, .error (.deadlineExceeded "DeleteLoadBalancer")⟩,
        ⟨erasure, .error (.api "DeleteLoadBalancer" "second")⟩,
        ⟨erasure, .ok ()⟩] := by
  rfl

end IngressConvergence.CloudService
