import IngressConvergence.Proofs.Transcript
import IngressConvergence.Proofs.World.Calls
import IngressConvergence.Simulation.Run

/-!
# What a run leaves on record

The cloud records the calls that reach it, and collaborators write down the calls that they take.
These are two lists; `World.record` joins what a run adds to them into one, in the order of time.
`World.cloud_calls_run` and `World.journal_run` show that nothing is lost on the way.
-/

namespace IngressConvergence

/-! ## Effects -/

/-- What is recorded of a cycle: a call that reached the cloud, or one that a collaborator took. -/
inductive Effect where
  | cloud (call : CloudCall)
  | collaborator (call : CollaboratorCall)
deriving DecidableEq

namespace Effect

/-- The call to the cloud that an effect is, if it is one. -/
def cloudCall? : Effect → Option CloudCall
  | .cloud call => some call
  | .collaborator _ => none

/-- The call to a collaborator that an effect is, if it is one. -/
def collaboratorCall? : Effect → Option CollaboratorCall
  | .cloud _ => none
  | .collaborator call => some call

theorem filterMap_cloudCall?_cloud
    (calls : List CloudCall) :
    (calls.map cloud).filterMap cloudCall? = calls := by
  rw [List.filterMap_map]
  exact List.filterMap_some

theorem filterMap_cloudCall?_collaborator
    (calls : List CollaboratorCall) :
    (calls.map collaborator).filterMap cloudCall? = [] := by
  simp [cloudCall?]

theorem filterMap_collaboratorCall?_cloud
    (calls : List CloudCall) :
    (calls.map cloud).filterMap collaboratorCall? = [] := by
  simp [collaboratorCall?]

theorem filterMap_collaboratorCall?_collaborator
    (calls : List CollaboratorCall) :
    (calls.map collaborator).filterMap collaboratorCall? = calls := by
  rw [List.filterMap_map]
  exact List.filterMap_some

end Effect

/-- What is recorded of a request that is taken. -/
def Request.effects : Request → List Effect
  | .cloud call => [.cloud call]
  | .collaborator call => [.collaborator call]
  | .annotationsOf _ => []
  | .configuration => []
  | .checkpoint _ => []
  | .report _ => []

namespace World

/-! ## One request -/

/-- What was recorded between two moments. -/
def recordedUntil (world later : World) : List Effect :=
  (later.cloud.calls.drop world.cloud.calls.length).map .cloud ++
    (later.journal.drop world.journal.length).map .collaborator

variable {world moment later : World}

theorem Later.recordedUntil_eq_nil
    (moved : Later world later) :
    world.recordedUntil later = [] := by
  simp [recordedUntil, moved.cloud, moved.journal]

theorem calls_receive
    (service : CloudService)
    (call : CloudCall) :
    (service.receive call).2.calls = service.calls ++ [call] := by
  rw [CloudService.receive]
  cases service.failures.lookup call.operation with
  | some message => rfl
  | none =>
      dsimp only
      cases service.tables.perform call with
      | ok done => rfl
      | error error => rfl

theorem recordedUntil_of_received
    {call : CloudCall}
    (waited : Later world moment)
    (moved : Later { moment with cloud := (moment.cloud.receive call).2 } later) :
    world.recordedUntil later = [.cloud call] := by
  have journal : later.journal = world.journal := moved.journal.trans waited.journal
  have calls : later.cloud.calls = world.cloud.calls ++ [call] := by
    rw [moved.cloud, ← waited.cloud]
    exact calls_receive moment.cloud call
  simp [recordedUntil, journal, calls]

theorem recordedUntil_of_taken
    {call : CollaboratorCall}
    (waited : Later world moment)
    (moved : Later { moment with journal := moment.journal ++ [call] } later) :
    world.recordedUntil later = [.collaborator call] := by
  have cloud : later.cloud = world.cloud := moved.cloud.trans waited.cloud
  have journal : later.journal = world.journal ++ [call] := by
    rw [moved.journal, ← waited.journal]
  simp [recordedUntil, journal, cloud]

theorem CloudCallFate.recordedUntil_eq
    {call : CloudCall}
    {reply : Except CloudError call.Answer}
    (fate : CloudCallFate world call reply later) :
    world.recordedUntil later = [.cloud call] ∨
      world.recordedUntil later = [] ∧ ∃ error, reply = .error error := by
  cases fate with
  | ended isCancellation moved dead => exact .inr ⟨moved.recordedUntil_eq_nil, _, rfl⟩
  | failed placed waited live moved =>
      exact .inr ⟨(waited.trans moved).recordedUntil_eq_nil, _, rfl⟩
  | received waited live moved => exact .inl (recordedUntil_of_received waited moved)

theorem CollaboratorCallFate.recordedUntil_eq
    {call : CollaboratorCall}
    {reply : Except Cause call.Answer}
    (fate : CollaboratorCallFate world call reply later) :
    world.recordedUntil later = [.collaborator call] ∨
      world.recordedUntil later = [] ∧ ∃ cause, reply = .error cause := by
  cases fate with
  | ended isCancellation moved dead => exact .inr ⟨moved.recordedUntil_eq_nil, _, rfl⟩
  | failed placed waited live moved => exact .inl (recordedUntil_of_taken waited moved)
  | answered waited live moved => exact .inl (recordedUntil_of_taken waited moved)

/-- A request puts its effects on record, or nothing, and then it is refused. -/
theorem recordedUntil_answer
    (asked : Request)
    (world : World) :
    world.recordedUntil (answer asked world).2 = asked.effects ∨
      world.recordedUntil (answer asked world).2 = [] ∧
        ∃ cause, asked.refusal? (answer asked world).1 = some cause := by
  cases asked with
  | annotationsOf key => exact .inl (Later.refl world).recordedUntil_eq_nil
  | configuration => exact .inl (Later.refl world).recordedUntil_eq_nil
  | checkpoint operation => exact .inl (Later.refl world).recordedUntil_eq_nil
  | report event => exact .inl (by simp [recordedUntil, answer, Request.effects])
  | cloud call =>
      rcases (world.cloudCall_fate call).recordedUntil_eq with received | ⟨absent, error, refused⟩
      · exact .inl received
      · refine .inr ⟨absent, .cloud error, ?_⟩
        simp [answer, Request.refusal?, refused, failureOf?]
  | collaborator call =>
      rcases (world.collaboratorCall_fate call).recordedUntil_eq with
        taken | ⟨absent, cause, refused⟩
      · exact .inl taken
      · refine .inr ⟨absent, cause, ?_⟩
        simp [answer, Request.refusal?, refused, failureOf?]

/-! ## Runs -/

/-- Lists of records only grow. -/
structure Grows
    (world later : World) : Prop where
  calls : world.cloud.calls <+: later.cloud.calls
  journal : world.journal <+: later.journal

theorem Later.grows
    (moved : Later world later) :
    Grows world later where
  calls := moved.cloud ▸ List.prefix_refl _
  journal := moved.journal ▸ List.prefix_refl _

theorem Grows.trans
    (first : Grows world moment)
    (second : Grows moment later) :
    Grows world later where
  calls := first.calls.trans second.calls
  journal := first.journal.trans second.journal

theorem grows_receive
    (world : World)
    (call : CloudCall) :
    Grows world { world with cloud := (world.cloud.receive call).2 } where
  calls := by
    rw [calls_receive]
    exact List.prefix_append _ _
  journal := List.prefix_refl _

theorem grows_journal
    (world : World)
    (call : CollaboratorCall) :
    Grows world { world with journal := world.journal ++ [call] } where
  calls := List.prefix_refl _
  journal := List.prefix_append _ _

theorem CloudCallFate.grows
    {call : CloudCall}
    {reply : Except CloudError call.Answer}
    (fate : CloudCallFate world call reply later) :
    Grows world later := by
  cases fate with
  | ended isCancellation moved dead => exact moved.grows
  | failed placed waited live moved => exact (waited.trans moved).grows
  | received waited live moved =>
      exact (waited.grows.trans (grows_receive _ call)).trans moved.grows

theorem CollaboratorCallFate.grows
    {call : CollaboratorCall}
    {reply : Except Cause call.Answer}
    (fate : CollaboratorCallFate world call reply later) :
    Grows world later := by
  cases fate with
  | ended isCancellation moved dead => exact moved.grows
  | failed placed waited live moved =>
      exact (waited.grows.trans (grows_journal _ call)).trans moved.grows
  | answered waited live moved =>
      exact (waited.grows.trans (grows_journal _ call)).trans moved.grows

theorem grows_answer
    (asked : Request)
    (world : World) :
    Grows world (answer asked world).2 := by
  cases asked with
  | annotationsOf key => exact (Later.refl world).grows
  | configuration => exact (Later.refl world).grows
  | checkpoint operation => exact (Later.refl world).grows
  | report event => exact ⟨List.prefix_refl _, List.prefix_refl _⟩
  | cloud call => exact (world.cloudCall_fate call).grows
  | collaborator call => exact (world.collaboratorCall_fate call).grows

/-- What a run of a program adds to the records, in the order of time. -/
def recordOf
    {Value : Type}
    (world : World)
    (program : Program Value) : List Effect :=
  (program.transcript answer world).flatMap fun exchange =>
    exchange.before.recordedUntil exchange.after

/-- What a run of an attempt adds to the records, in the order of time. -/
def record
    {Failure Value : Type}
    (world : World)
    (attempt : Attempt Failure Value) : List Effect :=
  world.recordOf (ExceptT.run attempt)

@[simp]
theorem recordOf_done
    {Value : Type}
    (world : World)
    (value : Value) :
    world.recordOf (.done value) = [] := rfl

@[simp]
theorem recordOf_request
    {Value : Type}
    (world : World)
    (asked : Request)
    (next : asked.Reply → Program Value) :
    world.recordOf (.request asked next) =
      world.recordedUntil (answer asked world).2 ++
        (answer asked world).2.recordOf (next (answer asked world).1) := rfl

theorem filterMap_cloudCall?_recordedUntil
    (grows : Grows world later) :
    world.cloud.calls ++ (world.recordedUntil later).filterMap Effect.cloudCall? =
      later.cloud.calls := by
  rw [recordedUntil, List.filterMap_append, Effect.filterMap_cloudCall?_cloud,
    Effect.filterMap_cloudCall?_collaborator, List.append_nil]
  exact List.prefix_iff_eq_append.mp grows.calls

theorem filterMap_collaboratorCall?_recordedUntil
    (grows : Grows world later) :
    world.journal ++ (world.recordedUntil later).filterMap Effect.collaboratorCall? =
      later.journal := by
  rw [recordedUntil, List.filterMap_append, Effect.filterMap_collaboratorCall?_cloud,
    Effect.filterMap_collaboratorCall?_collaborator, List.nil_append]
  exact List.prefix_iff_eq_append.mp grows.journal

/-- The calls that the cloud recorded during a run are those of its record. -/
theorem cloud_calls_run
    {Failure Value : Type}
    (world : World)
    (attempt : Attempt Failure Value) :
    (world.run attempt).2.cloud.calls =
      world.cloud.calls ++ (world.record attempt).filterMap Effect.cloudCall? := by
  rw [run, record]
  induction ExceptT.run attempt generalizing world with
  | done value => rw [Program.run_done, recordOf_done, List.filterMap_nil, List.append_nil]
  | request asked next ih =>
      rw [Program.run_request, ih, recordOf_request, List.filterMap_append, ← List.append_assoc,
        filterMap_cloudCall?_recordedUntil (grows_answer asked world)]

/-- The calls that collaborators took during a run are those of its record. -/
theorem journal_run
    {Failure Value : Type}
    (world : World)
    (attempt : Attempt Failure Value) :
    (world.run attempt).2.journal =
      world.journal ++ (world.record attempt).filterMap Effect.collaboratorCall? := by
  rw [run, record]
  induction ExceptT.run attempt generalizing world with
  | done value => rw [Program.run_done, recordOf_done, List.filterMap_nil, List.append_nil]
  | request asked next ih =>
      rw [Program.run_request, ih, recordOf_request, List.filterMap_append, ← List.append_assoc,
        filterMap_collaboratorCall?_recordedUntil (grows_answer asked world)]

end World

end IngressConvergence
