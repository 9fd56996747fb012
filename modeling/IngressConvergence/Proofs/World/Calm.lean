import IngressConvergence.Proofs.World.Record

/-!
# Worlds without faults

In a calm world there is no time, no context and no fault: the cloud answers from its tables and
collaborators answer what they answer.  It is the world in which it is easiest to see what a cycle
does.  `World.answer_follows_or_disturbed` compares a world with a calm one, request by request: the
two go on alike, or the request was refused, because of a fault or because the context has ended.
-/

namespace IngressConvergence

/-- What of a world matters to a cycle when nothing disturbs it. -/
structure CalmWorld where
  tables : CloudTables
  store : Store
  /-- What collaborators answer. -/
  answers : (call : CollaboratorCall) → call.Answer
  /-- What was recorded, in the order of time. -/
  effects : List Effect

namespace CalmWorld

/-! ## Answers -/

/-- The world with an effect on record. -/
def recording
    (calm : CalmWorld)
    (effect : Effect) : CalmWorld :=
  { calm with effects := calm.effects ++ [effect] }

/-- A call to the cloud, which nothing can keep from its tables. -/
def cloudCall
    (calm : CalmWorld)
    (call : CloudCall) : Except CloudError call.Answer × CalmWorld :=
  match calm.tables.perform call with
  | .ok (answer, tables) => (.ok answer, { calm.recording (.cloud call) with tables })
  | .error error => (.error error, calm.recording (.cloud call))

/-- What a calm world replies to a request, and the world after it. -/
def answer : (asked : Request) → CalmWorld → asked.Reply × CalmWorld
  | .annotationsOf key, calm =>
      (calm.store.annotationsOf (CallContext.fresh .start).1 .start key, calm)
  | .configuration, calm => (calm.store.configuration, calm)
  | .checkpoint _, calm => (.ok (), calm)
  | .cloud call, calm => calm.cloudCall call
  | .collaborator call, calm =>
      (.ok (calm.answers call), calm.recording (.collaborator call))
  | .report _, calm => ((), calm)

/-- Run an attempt in a calm world. -/
def run
    {Failure Value : Type}
    (calm : CalmWorld)
    (attempt : Attempt Failure Value) : Except Failure Value × CalmWorld :=
  Program.run answer (ExceptT.run attempt) calm

theorem effects_answer
    (asked : Request)
    (calm : CalmWorld) :
    (answer asked calm).2.effects = calm.effects ++ asked.effects := by
  cases asked with
  | annotationsOf key => exact (List.append_nil _).symm
  | configuration => exact (List.append_nil _).symm
  | checkpoint operation => exact (List.append_nil _).symm
  | report event => exact (List.append_nil _).symm
  | collaborator call => rfl
  | cloud call =>
      show (calm.cloudCall call).2.effects = _
      rw [cloudCall]
      cases calm.tables.perform call with
      | ok done => rfl
      | error error => rfl

theorem effects_run
    {Value : Type}
    (program : Program Value)
    (calm : CalmWorld) :
    (program.run answer calm).2.effects =
      calm.effects ++
        (program.transcript answer calm).flatMap fun exchange => exchange.asked.effects := by
  induction program generalizing calm with
  | done value => exact (List.append_nil _).symm
  | request asked next ih =>
      rw [Program.run_request, ih, effects_answer, Program.transcript_request, List.flatMap_cons,
        List.append_assoc]

theorem effects_prefix_run
    {Value : Type}
    (program : Program Value)
    (calm : CalmWorld) :
    calm.effects <+: (program.run answer calm).2.effects := by
  rw [effects_run]
  exact List.prefix_append _ _

end CalmWorld

/-! ## Comparing a world with a calm one -/

/-- What a store gives out under a live context does not depend on the context. -/
theorem Store.annotationsOf_of_isLive
    {context other : CallContext}
    {timeline otherTimeline : Timeline}
    (store : Store)
    (live : context.IsLive timeline)
    (otherLive : other.IsLive otherTimeline)
    (key : IngressKey) :
    store.annotationsOf context timeline key = store.annotationsOf other otherTimeline key := by
  simp only [annotationsOf]
  rw [CallContext.check_eq_ok_iff.mpr live, CallContext.check_eq_ok_iff.mpr otherLive]

theorem CallContext.isLive_fresh : (fresh .start).1.IsLive .start where
  notCancelled := rfl
  beforeDeadline := fun _ given => nomatch given

/-- Without a failure that waits for it, a call is answered from the tables. -/
theorem CloudService.receive_of_no_failure
    {service : CloudService}
    {call : CloudCall}
    (noneWaits : service.failures.lookup call.operation = none) :
    service.receive call =
      match service.tables.perform call with
      | .ok (answer, tables) =>
          (.ok answer, { service with tables, calls := service.calls ++ [call] })
      | .error error => (.error error, { service with calls := service.calls ++ [call] }) := by
  rw [receive]
  cases service.tables.perform call with
  | ok done => simp only [noneWaits]
  | error error => simp only [noneWaits]

theorem CloudService.receive_of_failure
    {service : CloudService}
    {call : CloudCall}
    {message : String}
    (waits : service.failures.lookup call.operation = some message) :
    (service.receive call).1 = .error (.api call.operation message) := by
  rw [receive]
  rw [waits]

namespace World

/-- A fault was placed for a request: at its hook, or in the service. -/
def PlacesFault (world : World) : Request → Prop
  | .cloud call =>
      (world.takeHook call.operation).1.failure ≠ none ∨
        world.cloud.failures.lookup call.operation ≠ none
  | .collaborator call => (world.takeHook call.point).1.failure ≠ none
  | .annotationsOf _ => False
  | .configuration => False
  | .checkpoint _ => False
  | .report _ => False

/-- A world and a calm one agree in all that a cycle can read. -/
structure Matches
    (world : World)
    (calm : CalmWorld) : Prop where
  tables : world.cloud.tables = calm.tables
  store : world.store = calm.store
  answers : world.collaboratorAnswer = calm.answers

/-- The calm world that agrees with a world, with nothing on record yet. -/
def calm (world : World) : CalmWorld where
  tables := world.cloud.tables
  store := world.store
  answers := world.collaboratorAnswer
  effects := []

theorem matches_calm (world : World) : world.Matches world.calm := ⟨rfl, rfl, rfl⟩

variable {world moment later : World} {calm : CalmWorld}

/-- When only time and hooks moved on, a world still agrees with the same calm one. -/
theorem Later.matches
    (moved : Later world later)
    (agrees : world.Matches calm) :
    later.Matches calm where
  tables := (congrArg _ moved.cloud).trans agrees.tables
  store := moved.store.trans agrees.store
  answers := (funext (collaboratorAnswer_congr moved.targetGroups)).trans agrees.answers

/-- A request is answered as in a calm world. -/
structure Follows
    (world : World)
    (calm : CalmWorld)
    (asked : Request) : Prop where
  reply : (answer asked world).1 = (CalmWorld.answer asked calm).1
  agrees : (answer asked world).2.Matches (CalmWorld.answer asked calm).2
  recorded : world.recordedUntil (answer asked world).2 = asked.effects

/-- A call to the cloud goes as in a calm world, or a fault or the end of the context keeps it from that. -/
theorem CloudCallFate.follows_or_disturbed
    {call : CloudCall}
    {reply : Except CloudError call.Answer}
    (fate : CloudCallFate world call reply later)
    (agrees : world.Matches calm) :
    (reply = (calm.cloudCall call).1 ∧ later.Matches (calm.cloudCall call).2 ∧
        world.recordedUntil later = [.cloud call]) ∨
      (∃ error, reply = .error error) ∧
        (world.PlacesFault (.cloud call) ∨ ¬ later.IsLive) := by
  cases fate with
  | ended isCancellation moved dead => exact .inr ⟨⟨_, rfl⟩, .inr dead⟩
  | failed placed waited live moved =>
      refine .inr ⟨⟨_, rfl⟩, .inl (.inl ?_)⟩
      rw [placed]
      exact Option.some_ne_none _
  | @received moment _ waited live moved =>
      cases waits : moment.cloud.failures.lookup call.operation with
      | some message =>
          refine .inr ⟨⟨_, CloudService.receive_of_failure waits⟩, .inl (.inr ?_)⟩
          rw [← waited.cloud, waits]
          exact Option.some_ne_none _
      | none =>
          have recorded := recordedUntil_of_received waited moved
          have before := waited.matches agrees
          rw [CloudService.receive_of_no_failure waits, before.tables] at moved ⊢
          rw [CalmWorld.cloudCall]
          cases performed : calm.tables.perform call with
          | ok done =>
              rw [performed] at moved
              exact .inl ⟨rfl, moved.matches ⟨rfl, before.store, before.answers⟩, recorded⟩
          | error error =>
              rw [performed] at moved
              exact .inl ⟨rfl, moved.matches ⟨rfl, before.store, before.answers⟩, recorded⟩

/-- A call to a collaborator goes as in a calm world, or a fault or the end of the context keeps it from
that. -/
theorem CollaboratorCallFate.follows_or_disturbed
    {call : CollaboratorCall}
    {reply : Except Cause call.Answer}
    (fate : CollaboratorCallFate world call reply later)
    (agrees : world.Matches calm) :
    (reply = .ok (calm.answers call) ∧ later.Matches (calm.recording (.collaborator call)) ∧
        world.recordedUntil later = [.collaborator call]) ∨
      (∃ cause, reply = .error cause) ∧
        (world.PlacesFault (.collaborator call) ∨ ¬ later.IsLive) := by
  cases fate with
  | ended isCancellation moved dead => exact .inr ⟨⟨_, rfl⟩, .inr dead⟩
  | failed placed waited live moved =>
      refine .inr ⟨⟨_, rfl⟩, .inl ?_⟩
      show (world.takeHook call.point).1.failure ≠ none
      rw [placed]
      exact Option.some_ne_none _
  | answered waited live moved =>
      have before := waited.matches agrees
      refine .inl ⟨?_, moved.matches ⟨before.tables, before.store, before.answers⟩,
        recordedUntil_of_taken waited moved⟩
      rw [agrees.answers]

/-- Request by request, a world goes on like a calm one that agrees with it, unless the request is
refused, because of a fault or because the context has ended. -/
theorem answer_follows_or_disturbed
    (agrees : world.Matches calm)
    (asked : Request) :
    world.Follows calm asked ∨
      (∃ cause, asked.refusal? (answer asked world).1 = some cause) ∧
        (world.PlacesFault asked ∨ ¬ (answer asked world).2.IsLive) := by
  have still : world.recordedUntil world = [] := (Later.refl world).recordedUntil_eq_nil
  cases asked with
  | configuration => exact .inl ⟨congrArg Store.configuration agrees.store, agrees, still⟩
  | report event =>
      refine .inl ⟨rfl, ⟨agrees.tables, agrees.store, agrees.answers⟩, ?_⟩
      simp [recordedUntil, answer, Request.effects]
  | annotationsOf key =>
      by_cases live : world.IsLive
      · have same := Store.annotationsOf_of_isLive world.store live CallContext.isLive_fresh key
        rw [agrees.store] at same
        refine .inl ⟨?_, agrees, still⟩
        show world.store.annotationsOf world.context world.timeline key = _
        rw [agrees.store]
        exact same
      · rcases CallContext.check_eq_error_of_not_isLive "GetIngressAnnotations" live with
          ⟨error, refused, -⟩
        refine .inr ⟨⟨.cloud error, ?_⟩, .inr live⟩
        simp only [answer, Store.annotationsOf, refused, Request.refusal?, failureOf?]
  | checkpoint operation =>
      by_cases live : world.IsLive
      · exact .inl ⟨CallContext.check_eq_ok_iff.mpr live, agrees, still⟩
      · rcases CallContext.check_eq_error_of_not_isLive operation live with ⟨error, refused, -⟩
        refine .inr ⟨⟨.cloud error, ?_⟩, .inr live⟩
        simp only [answer, check, refused, Request.refusal?, failureOf?, Option.map_some]
  | cloud call =>
      rcases (world.cloudCall_fate call).follows_or_disturbed agrees with
        ⟨reply, after, recorded⟩ | ⟨⟨error, refused⟩, disturbed⟩
      · exact .inl ⟨reply, after, recorded⟩
      · refine .inr ⟨⟨.cloud error, ?_⟩, disturbed⟩
        simp only [answer, refused, Request.refusal?, failureOf?, Option.map_some]
  | collaborator call =>
      rcases (world.collaboratorCall_fate call).follows_or_disturbed agrees with
        ⟨reply, after, recorded⟩ | ⟨⟨cause, refused⟩, disturbed⟩
      · exact .inl ⟨reply, after, recorded⟩
      · refine .inr ⟨⟨cause, ?_⟩, disturbed⟩
        simp only [answer, refused, Request.refusal?, failureOf?]

end World

end IngressConvergence
