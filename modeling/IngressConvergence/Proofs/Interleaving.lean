import IngressConvergence.Proofs.World.Faultless

/-!
# Two programs at once

Two programs run at once if the requests of both are answered one at a time, in any order that keeps
those of each program in theirs.  In a world each program has its own context.  As long as the world is
quiet and both contexts are live, an interleaving in a world goes as one in a calm world that agrees
with it, which is `World.Interleaves.exists_calm`.
-/

namespace IngressConvergence

namespace Program

variable {State First Second : Type}

/-- Runs of two programs from a state, with a way of answering for each: with what both are done, and
in which state. -/
inductive Interleaves
    (answer answer' : (asked : Request) → State → asked.Reply × State) :
    Program First → Program Second → State → First → Second → State → Prop where
  | done
      (value : First)
      (value' : Second)
      (state : State) :
      Interleaves answer answer' (.done value) (.done value') state value value' state
  | first
      {asked : Request}
      {next : asked.Reply → Program First}
      {program' : Program Second}
      {state last : State}
      {value : First}
      {value' : Second}
      (rest :
        Interleaves answer answer' (next (answer asked state).1) program' (answer asked state).2
          value value' last) :
      Interleaves answer answer' (.request asked next) program' state value value' last
  | second
      {program : Program First}
      {asked : Request}
      {next : asked.Reply → Program Second}
      {state last : State}
      {value : First}
      {value' : Second}
      (rest :
        Interleaves answer answer' program (next (answer' asked state).1) (answer' asked state).2
          value value' last) :
      Interleaves answer answer' program (.request asked next) state value value' last

variable {answer answer' : (asked : Request) → State → asked.Reply × State}

theorem Interleaves.symm
    {program : Program First}
    {program' : Program Second}
    {state last : State}
    {value : First}
    {value' : Second}
    (interleaved : Interleaves answer answer' program program' state value value' last) :
    Interleaves answer' answer program' program state value' value last := by
  induction interleaved with
  | done value value' state => exact .done value' value state
  | first rest ih => exact .second ih
  | second rest ih => exact .first ih

/-- Running one program to its end and then the other is one way to run both. -/
theorem interleaves_run
    (answer answer' : (asked : Request) → State → asked.Reply × State)
    (program : Program First)
    (program' : Program Second)
    (state : State) :
    Interleaves answer answer' program program' state (program.run answer state).1
      (program'.run answer' (program.run answer state).2).1
      (program'.run answer' (program.run answer state).2).2 := by
  induction program generalizing state with
  | request asked next ih => exact .first (ih _ _)
  | done value =>
      -- The first program is done, and what is left is a run of the second.
      show Interleaves answer answer' (.done value) program' state value
        (program'.run answer' state).1 (program'.run answer' state).2
      induction program' generalizing state with
      | done value' => exact .done value value' state
      | request asked next ih => exact .second (ih _ _)

end Program

/-! ## Interleavings in a world -/

namespace World

variable {Failure Failure' Value Value' : Type} {world last : World} {context context' : CallContext}

/-- The world as it is for calls under a context. -/
def under
    (world : World)
    (context : CallContext) : World :=
  { world with context }

/-- What the world replies to a request that is made under a context, and the world after it. -/
def answerUnder
    (context : CallContext)
    (asked : Request)
    (world : World) : asked.Reply × World :=
  answer asked (world.under context)

/-- Runs of two attempts in a world at once, each under a context of its own: what both come to, and
the world after both. -/
def Interleaves
    (world : World)
    (context context' : CallContext)
    (attempt : Attempt Failure Value)
    (attempt' : Attempt Failure' Value')
    (result : Except Failure Value)
    (result' : Except Failure' Value')
    (last : World) : Prop :=
  Program.Interleaves (answerUnder context) (answerUnder context') (ExceptT.run attempt)
    (ExceptT.run attempt') world result result' last

theorem Matches.under
    {calm : CalmWorld}
    (agrees : world.Matches calm)
    (context : CallContext) :
    (world.under context).Matches calm where
  tables := agrees.tables
  store := agrees.store
  answers := (funext (collaboratorAnswer_congr rfl)).trans agrees.answers

/-- A request that is answered in a quiet world as in a calm one, and leaves the world quiet at the same
instant. -/
structure AnswersAs
    (world : World)
    (context : CallContext)
    (calm : CalmWorld)
    (asked : Request) : Prop where
  reply : (answerUnder context asked world).1 = (CalmWorld.answer asked calm).1
  agrees : (answerUnder context asked world).2.Matches (CalmWorld.answer asked calm).2
  quiet : (answerUnder context asked world).2.IsQuiet
  timeline : (answerUnder context asked world).2.timeline = world.timeline

/-- A quiet world answers under a live context as a calm world that agrees with it. -/
theorem IsQuiet.answersAs
    {calm : CalmWorld}
    (quiet : world.IsQuiet)
    (live : context.IsLive world.timeline)
    (agrees : world.Matches calm)
    (asked : Request) :
    world.AnswersAs context calm asked := by
  have quietUnder : (world.under context).IsQuiet := ⟨quiet.noHook, quiet.noFailure⟩
  have stays := quietUnder.answer live asked
  rcases answer_follows_or_disturbed (agrees.under context) asked with follows | ⟨-, placed | dead⟩
  · exact ⟨follows.reply, follows.agrees, stays.toIsQuiet, stays.timeline⟩
  · exact absurd placed (quietUnder.not_placesFault asked)
  · exact absurd (stays.isLive live) dead

/-- An interleaving in a quiet world goes as one in a calm world that agrees with it. -/
theorem exists_calm_of_interleaves
    {First Second : Type}
    {program : Program First}
    {program' : Program Second}
    {value : First}
    {value' : Second}
    (interleaved :
      Program.Interleaves (answerUnder context) (answerUnder context') program program' world value
        value' last)
    (quiet : world.IsQuiet)
    (live : context.IsLive world.timeline)
    (live' : context'.IsLive world.timeline)
    {calm : CalmWorld}
    (agrees : world.Matches calm) :
    ∃ after, last.Matches after ∧
      Program.Interleaves CalmWorld.answer CalmWorld.answer program program' calm value value'
        after := by
  -- No request takes time in a quiet world, so that both contexts stay live at every step.
  induction interleaved generalizing calm with
  | done value value' state => exact ⟨calm, agrees, .done value value' calm⟩
  | @first asked next program' state last value value' rest ih =>
      have answers := quiet.answersAs live agrees asked
      rw [← answers.timeline] at live live'
      rcases ih answers.quiet live live' answers.agrees with ⟨after, matchesAfter, goesOn⟩
      rw [answers.reply] at goesOn
      exact ⟨after, matchesAfter, .first goesOn⟩
  | @second program asked next state last value value' rest ih =>
      have answers := quiet.answersAs live' agrees asked
      rw [← answers.timeline] at live live'
      rcases ih answers.quiet live live' answers.agrees with ⟨after, matchesAfter, goesOn⟩
      rw [answers.reply] at goesOn
      exact ⟨after, matchesAfter, .second goesOn⟩

/-- Two attempts that run one after the other in a quiet world go as they do in a calm world that agrees
with it. -/
theorem exists_calm_of_run
    {attempt : Attempt Failure Value}
    {attempt' : Attempt Failure' Value'}
    {first : Except Failure Value × World}
    {second : Except Failure' Value' × World}
    (ranFirst : (world.under context).run attempt = first)
    (ranSecond : (first.2.under context').run attempt' = second)
    (quiet : world.IsQuiet)
    (live : context.IsLive world.timeline)
    (live' : context'.IsLive world.timeline)
    {calm : CalmWorld}
    (agrees : world.Matches calm) :
    ∃ after, second.2.Matches after ∧
      Program.Interleaves CalmWorld.answer CalmWorld.answer (ExceptT.run attempt)
        (ExceptT.run attempt') calm first.1 second.1 after := by
  have quietFirst : (world.under context).IsQuiet := ⟨quiet.noHook, quiet.noFailure⟩
  have runsFirst := (quietFirst.undisturbed live attempt).runsAs (agrees.under context)
  have stays := quietFirst.run live attempt
  subst ranFirst
  have quietSecond : (((world.under context).run attempt).2.under context').IsQuiet :=
    ⟨stays.noHook, stays.noFailure⟩
  have liveSecond : (((world.under context).run attempt).2.under context').IsLive := by
    rw [IsLive, under, stays.timeline]
    exact live'
  have runsSecond := (quietSecond.undisturbed liveSecond attempt').runsAs
    (Matches.under runsFirst.agrees context')
  subst ranSecond
  refine ⟨_, runsSecond.agrees, ?_⟩
  have sequence := Program.interleaves_run CalmWorld.answer CalmWorld.answer (ExceptT.run attempt)
    (ExceptT.run attempt') calm
  rw [← runsFirst.result, ← runsSecond.result] at sequence
  exact sequence

end World

end IngressConvergence
