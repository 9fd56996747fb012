import IngressConvergence.Proofs.FailFast
import IngressConvergence.Proofs.World.Calm

/-!
# Runs that nothing disturbs

A run is undisturbed if no request meets a fault and the context is live to the end.  It then goes as
in the calm world that agrees with its world, and so does the run of a program that fails fast and
succeeds.  Whatever happens to a program that fails fast, what it leaves on record is the beginning of
what it leaves on record in the calm world; this is
`World.recordOf_prefix_of_failsFast`.
-/

namespace IngressConvergence.World

variable {Failure Value : Type} {world later : World} {calm : CalmWorld}

/-! ## Time goes on -/

theorem elapsed_receive
    (world : World)
    (call : CloudCall) :
    Elapsed world { world with cloud := (world.cloud.receive call).2 } :=
  { Elapsed.refl world with }

theorem elapsed_journal
    (world : World)
    (call : CollaboratorCall) :
    Elapsed world { world with journal := world.journal ++ [call] } :=
  { Elapsed.refl world with }

theorem CloudCallFate.elapsed
    {call : CloudCall}
    {reply : Except CloudError call.Answer}
    (fate : CloudCallFate world call reply later) :
    Elapsed world later := by
  cases fate with
  | ended isCancellation moved dead => exact moved.toElapsed
  | failed placed waited live moved => exact (waited.trans moved).toElapsed
  | received waited live moved =>
      exact (waited.toElapsed.trans (elapsed_receive _ call)).trans moved.toElapsed

theorem CollaboratorCallFate.elapsed
    {call : CollaboratorCall}
    {reply : Except Cause call.Answer}
    (fate : CollaboratorCallFate world call reply later) :
    Elapsed world later := by
  cases fate with
  | ended isCancellation moved dead => exact moved.toElapsed
  | failed placed waited live moved =>
      exact (waited.toElapsed.trans (elapsed_journal _ call)).trans moved.toElapsed
  | answered waited live moved =>
      exact (waited.toElapsed.trans (elapsed_journal _ call)).trans moved.toElapsed

/-- A request takes its time and leaves the context, the store and the script as they are. -/
theorem elapsed_answer
    (asked : Request)
    (world : World) :
    Elapsed world (answer asked world).2 := by
  cases asked with
  | annotationsOf key => exact .refl world
  | configuration => exact .refl world
  | checkpoint operation => exact .refl world
  | report event => exact { Elapsed.refl world with }
  | cloud call => exact (world.cloudCall_fate call).elapsed
  | collaborator call => exact (world.collaboratorCall_fate call).elapsed

/-- A run takes its time and leaves the context, the store and the script as they are. -/
theorem elapsed_run
    (program : Program Value)
    (world : World) :
    Elapsed world (program.run answer world).2 :=
  Program.run_invariant answer
    (fun asked moment elapsed => elapsed.trans (elapsed_answer asked moment))
    program world (.refl world)

theorem store_run
    (world : World)
    (attempt : Attempt Failure Value) :
    (world.run attempt).2.store = world.store :=
  (elapsed_run attempt.run world).store

theorem elapsed_after
    (program : Program Value)
    (world : World) :
    ∀ exchange ∈ program.transcript answer world,
      Elapsed exchange.after (program.run answer world).2 := by
  induction program generalizing world with
  | done value =>
      intro exchange member
      cases member
  | request asked next ih =>
      intro exchange member
      rw [Program.transcript_request] at member
      rcases List.mem_cons.mp member with rfl | later
      · exact elapsed_run _ _
      · exact ih _ _ exchange later

/-! ## Runs as in a calm world -/

/-- A run goes as it does in a calm world. -/
structure RunsAs
    (world : World)
    (calm : CalmWorld)
    (program : Program Value) : Prop where
  result : (program.run answer world).1 = (program.run CalmWorld.answer calm).1
  agrees : (program.run answer world).2.Matches (program.run CalmWorld.answer calm).2
  recorded :
    (program.run CalmWorld.answer calm).2.effects = calm.effects ++ world.recordOf program

theorem RunsAs.request
    {asked : Request}
    {next : asked.Reply → Program Value}
    (follows : world.Follows calm asked)
    (rest :
      (answer asked world).2.RunsAs (CalmWorld.answer asked calm).2
        (next (CalmWorld.answer asked calm).1)) :
    world.RunsAs calm (.request asked next) where
  result := by
    rw [Program.run_request, Program.run_request, follows.reply]
    exact rest.result
  agrees := by
    rw [Program.run_request, Program.run_request, follows.reply]
    exact rest.agrees
  recorded := by
    rw [Program.run_request, recordOf_request, rest.recorded, CalmWorld.effects_answer,
      follows.recorded, follows.reply, List.append_assoc]

/-- An exchange is disturbed if its request is refused because of a fault, or because the context
has ended. -/
structure IsDisturbed
    (exchange : Exchange World) : Prop where
  refused : ∃ cause, exchange.refusal? = some cause
  reason : exchange.before.PlacesFault exchange.asked ∨ ¬ exchange.after.IsLive

/-- A run goes as in a calm world, or one of its exchanges is disturbed. -/
theorem runsAs_or_isDisturbed
    (agrees : world.Matches calm)
    (program : Program Value) :
    world.RunsAs calm program ∨
      ∃ exchange ∈ program.transcript answer world, IsDisturbed exchange := by
  induction program generalizing world calm with
  | done value => exact .inl ⟨rfl, agrees, (List.append_nil _).symm⟩
  | request asked next ih =>
      rw [Program.transcript_request]
      rcases answer_follows_or_disturbed agrees asked with follows | ⟨refused, reason⟩
      · rw [follows.reply]
        rcases ih _ follows.agrees with rest | ⟨exchange, member, disturbed⟩
        · exact .inl (.request follows rest)
        · exact .inr ⟨exchange, List.mem_cons_of_mem _ member, disturbed⟩
      · exact .inr ⟨_, List.mem_cons_self, refused, reason⟩

/-- A run is undisturbed if no request meets a fault and the context is live at the end. -/
structure Undisturbed
    (world : World)
    (attempt : Attempt Failure Value) : Prop where
  meetsNoFault :
    ∀ exchange ∈ (ExceptT.run attempt).transcript answer world,
      ¬ exchange.before.PlacesFault exchange.asked
  staysLive : (world.run attempt).2.IsLive

/-- An undisturbed run goes as in a calm world. -/
theorem Undisturbed.runsAs
    {attempt : Attempt Failure Value}
    (undisturbed : world.Undisturbed attempt)
    (agrees : world.Matches calm) :
    world.RunsAs calm (ExceptT.run attempt) := by
  rcases runsAs_or_isDisturbed agrees (ExceptT.run attempt) with
    runsAs | ⟨exchange, member, disturbed⟩
  · exact runsAs
  · rcases disturbed.reason with placed | dead
    · exact absurd placed (undisturbed.meetsNoFault exchange member)
    · exact absurd ((elapsed_after _ _ exchange member).isLive undisturbed.staysLive) dead

/-- An attempt that stops at refusals and succeeds went as in a calm world. -/
theorem runsAs_of_eq_ok
    {explains : Request → Cause → Failure → Prop}
    {attempt : Attempt Failure Value}
    {value : Value}
    (failsFast : attempt.FailsFast explains)
    (agrees : world.Matches calm)
    (succeeds : (world.run attempt).1 = .ok value) :
    world.RunsAs calm (ExceptT.run attempt) := by
  rcases runsAs_or_isDisturbed agrees (ExceptT.run attempt) with
    runsAs | ⟨exchange, member, ⟨cause, refused⟩, -⟩
  · exact runsAs
  · have notRefused := failsFast.refusal?_eq_none answer world succeeds exchange member
    rw [refused] at notRefused
    cases notRefused

/-! ## What stays of a run that is disturbed -/

/-- A program that has given up puts nothing on record. -/
theorem recordOf_of_givesUp
    {explained : Failure → Prop}
    {program : Program (Except Failure Value)}
    (givesUp : Program.GivesUp explained program)
    (world : World) :
    world.recordOf program = [] := by
  induction givesUp generalizing world with
  | fail isExplained => rfl
  | @report event next rest ih =>
      have silent : world.recordedUntil (answer (.report event) world).2 = [] := by
        simp [recordedUntil, answer]
      rw [recordOf_request, silent, List.nil_append]
      exact ih _ _

/-- What a program that fails fast leaves on record begins what it leaves on record in a calm
world. -/
theorem recordOf_prefix_of_failsFast
    {explains : Request → Cause → Failure → Prop}
    {program : Program (Except Failure Value)}
    (failsFast : program.FailsFast explains)
    (agrees : world.Matches calm) :
    calm.effects ++ world.recordOf program <+: (program.run CalmWorld.answer calm).2.effects := by
  induction failsFast generalizing world calm with
  | done result => simp
  | @request asked next goesOn stops ih =>
      rw [recordOf_request, ← List.append_assoc, Program.run_request]
      rcases answer_follows_or_disturbed agrees asked with follows | ⟨⟨cause, refused⟩, -⟩
      · rw [follows.recorded, follows.reply, ← CalmWorld.effects_answer]
        exact ih _ follows.agrees
      · rw [recordOf_of_givesUp (stops _ cause refused), List.append_nil]
        refine List.IsPrefix.trans ?_ (CalmWorld.effects_prefix_run _ _)
        rw [CalmWorld.effects_answer]
        rcases recordedUntil_answer asked world with recorded | ⟨absent, -⟩
        · simp only [recorded, List.prefix_refl]
        · rw [absent, List.append_nil]
          exact List.prefix_append _ _

end IngressConvergence.World
