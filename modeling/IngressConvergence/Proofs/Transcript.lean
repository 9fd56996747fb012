import IngressConvergence.Program

/-!
# Transcripts of runs

A run of a program is described by its transcript: each request with the reply to it, and the states
before and after.  What a program does under every way of answering is then a statement about its
transcripts.  What every exchange preserves, holds throughout a run; this is `Program.run_invariant` for
the end of a run and `Program.transcript_invariant` for its exchanges.
-/

namespace IngressConvergence

/-! ## Requests that are refused -/

/-- The failure of a result, if it is one. -/
def failureOf?
    {Failure Value : Type} :
    Except Failure Value → Option Failure
  | .error failure => some failure
  | .ok _ => none

/-- The cause with which a request was refused, if it was. -/
def Request.refusal? : (asked : Request) → asked.Reply → Option Cause
  | .annotationsOf _, reply => failureOf? reply
  | .configuration, _ => none
  | .checkpoint _, reply => (failureOf? reply).map .cloud
  | .cloud _, reply => (failureOf? reply).map .cloud
  | .collaborator _, reply => failureOf? reply
  | .report _, _ => none

/-- Whether a request leads out of the controller under the context of the cycle. -/
def Request.isExternal : Request → Bool
  | .annotationsOf _ => true
  | .checkpoint _ => true
  | .cloud _ => true
  | .collaborator _ => true
  | .configuration => false
  | .report _ => false

/-! ## Exchanges -/

/-- A request of a run, the reply to it, and the states before and after. -/
structure Exchange (State : Type) where
  before : State
  asked : Request
  reply : asked.Reply
  after : State

namespace Exchange

variable {State : Type}

/-- The cause with which the request of an exchange was refused, if it was. -/
def refusal? (exchange : Exchange State) : Option Cause :=
  exchange.asked.refusal? exchange.reply

theorem refusal?_of_report
    {exchange : Exchange State}
    {event : Event}
    (isReport : exchange.asked = .report event) :
    exchange.refusal? = none := by
  cases exchange
  cases isReport
  rfl

end Exchange

namespace Program

variable {First Second State : Type}

/-- The exchanges of a run, in their order. -/
def transcript
    (answer : (asked : Request) → State → asked.Reply × State) :
    Program First → State → List (Exchange State)
  | .done _, _ => []
  | .request asked next, state =>
      let (reply, after) := answer asked state
      ⟨state, asked, reply, after⟩ :: (next reply).transcript answer after

variable (answer : (asked : Request) → State → asked.Reply × State)

@[simp]
theorem run_done
    (value : First)
    (state : State) :
    (Program.done value).run answer state = (value, state) := rfl

@[simp]
theorem transcript_done
    (value : First)
    (state : State) :
    (Program.done value).transcript answer state = [] := rfl

@[simp]
theorem run_request
    (asked : Request)
    (next : asked.Reply → Program First)
    (state : State) :
    (Program.request asked next).run answer state =
      (next (answer asked state).1).run answer (answer asked state).2 := rfl

@[simp]
theorem transcript_request
    (asked : Request)
    (next : asked.Reply → Program First)
    (state : State) :
    (Program.request asked next).transcript answer state =
      ⟨state, asked, (answer asked state).1, (answer asked state).2⟩ ::
        (next (answer asked state).1).transcript answer (answer asked state).2 := rfl

/-- The exchanges of a program come before those of what follows it. -/
theorem transcript_bind
    (program : Program First)
    (next : First → Program Second)
    (state : State) :
    (program.bind next).transcript answer state =
      program.transcript answer state ++
        (next (program.run answer state).1).transcript answer (program.run answer state).2 := by
  induction program generalizing state with
  | done value => rfl
  | request asked after ih => exact congrArg _ (ih _ _)

/-- What every exchange preserves, a run preserves. -/
theorem run_invariant
    {Invariant : State → Prop}
    (preserved :
      ∀ asked state, Invariant state → Invariant (answer asked state).2)
    (program : Program First)
    (state : State)
    (initial : Invariant state) :
    Invariant (program.run answer state).2 := by
  induction program generalizing state with
  | done value => exact initial
  | request asked next ih =>
      exact ih _ _ (preserved asked state initial)

/-- What every exchange preserves, holds before every exchange of a run. -/
theorem transcript_invariant
    {Invariant : State → Prop}
    (preserved :
      ∀ asked state, Invariant state → Invariant (answer asked state).2)
    (program : Program First)
    (state : State)
    (initial : Invariant state) :
    ∀ exchange ∈ program.transcript answer state, Invariant exchange.before := by
  induction program generalizing state with
  | done value =>
      intro exchange member
      cases member
  | request asked next ih =>
      intro exchange member
      rw [transcript_request] at member
      rcases List.mem_cons.mp member with rfl | later
      · exact initial
      · exact ih _ _ (preserved asked state initial) exchange later

/-- Every exchange of a transcript is an answer to its request. -/
theorem answer_of_mem_transcript
    {program : Program First}
    {state : State} :
    ∀ exchange ∈ program.transcript answer state,
      answer exchange.asked exchange.before = (exchange.reply, exchange.after) := by
  induction program generalizing state with
  | done value =>
      intro exchange member
      cases member
  | request asked next ih =>
      intro exchange member
      rw [transcript_request] at member
      rcases List.mem_cons.mp member with rfl | later
      · rfl
      · exact ih _ exchange later

theorem reply_of_mem_transcript
    {program : Program First}
    {state : State}
    (exchange : Exchange State)
    (member : exchange ∈ program.transcript answer state) :
    exchange.reply = (answer exchange.asked exchange.before).1 :=
  congrArg Prod.fst (answer_of_mem_transcript answer exchange member).symm

theorem after_of_mem_transcript
    {program : Program First}
    {state : State}
    (exchange : Exchange State)
    (member : exchange ∈ program.transcript answer state) :
    exchange.after = (answer exchange.asked exchange.before).2 :=
  congrArg Prod.snd (answer_of_mem_transcript answer exchange member).symm

/-- What follows an exchange is the transcript of the rest of the program. -/
theorem exists_rest_of_split
    {program : Program First}
    {state : State}
    {earlier later : List (Exchange State)}
    {exchange : Exchange State}
    (split : program.transcript answer state = earlier ++ exchange :: later) :
    ∃ rest : Program First, later = rest.transcript answer exchange.after ∧
      program.run answer state = rest.run answer exchange.after := by
  induction program generalizing state earlier with
  | done value => simp at split
  | request asked next ih =>
      rw [transcript_request] at split
      cases earlier with
      | nil =>
          rcases List.cons.inj split with ⟨rfl, rfl⟩
          exact ⟨_, rfl, rfl⟩
      | cons first earlier =>
          rcases List.cons.inj split with ⟨-, tail⟩
          exact ih _ tail

/-- A request that nothing refused precedes is the first of a program, or it follows the first and an
acceptance of it. -/
theorem split_cases
    {asked : Request}
    {next : asked.Reply → Program First}
    {state : State}
    {earlier later : List (Exchange State)}
    {asks : Exchange State}
    (split : (Program.request asked next).transcript answer state = earlier ++ asks :: later)
    (accepted : ∀ exchange ∈ earlier, exchange.refusal? = none) :
    (earlier = [] ∧ asks.asked = asked) ∨
      ∃ reply after rest,
        earlier = ⟨state, asked, reply, after⟩ :: rest ∧ asked.refusal? reply = none ∧
          (∀ exchange ∈ rest, exchange.refusal? = none) ∧
          (next reply).transcript answer after = rest ++ asks :: later := by
  rw [transcript_request] at split
  cases earlier with
  | nil =>
      rcases List.cons.inj split with ⟨rfl, -⟩
      exact .inl ⟨rfl, rfl⟩
  | cons first rest =>
      rcases List.cons.inj split with ⟨rfl, tail⟩
      exact .inr ⟨_, _, rest, rfl, accepted _ List.mem_cons_self,
        fun exchange member => accepted exchange (List.mem_cons_of_mem _ member), tail⟩

/-- A request that nothing refused precedes and that is not the first of a program follows the first and
an acceptance of it. -/
theorem exists_accepted_of_split
    {asked : Request}
    {next : asked.Reply → Program First}
    {state : State}
    {earlier later : List (Exchange State)}
    {asks : Exchange State}
    (split : (Program.request asked next).transcript answer state = earlier ++ asks :: later)
    (accepted : ∀ exchange ∈ earlier, exchange.refusal? = none)
    (differs : asks.asked ≠ asked) :
    ∃ reply after rest,
      earlier = ⟨state, asked, reply, after⟩ :: rest ∧ asked.refusal? reply = none ∧
        (∀ exchange ∈ rest, exchange.refusal? = none) ∧
        (next reply).transcript answer after = rest ++ asks :: later :=
  (split_cases answer split accepted).resolve_left fun isFirst => differs isFirst.2

end Program

/-! ## Attempts -/

namespace Attempt

variable {Failure Other First Second State : Type}
variable (answer : (asked : Request) → State → asked.Reply × State)

/-- An attempt goes on after a success and stops at a failure. -/
theorem run_bind
    (attempt : Attempt Failure First)
    (next : First → Attempt Failure Second)
    (state : State) :
    Program.run answer (ExceptT.run (attempt >>= next)) state =
      match Program.run answer (ExceptT.run attempt) state with
      | (.ok value, after) => Program.run answer (ExceptT.run (next value)) after
      | (.error failure, after) => (.error failure, after) := by
  rw [ExceptT.run_bind]
  apply (Program.run_bind answer _ _ state).trans
  rcases Program.run answer (ExceptT.run attempt) state with ⟨result, after⟩
  cases result with
  | ok value => rfl
  | error failure => rfl

/-- What makes no request adds no exchange. -/
theorem transcript_bind_of_silent
    (attempt : Attempt Failure First)
    (next : First → Attempt Failure Second)
    (silent :
      ∀ value after, Program.transcript answer (ExceptT.run (next value)) after = [])
    (state : State) :
    Program.transcript answer (ExceptT.run (attempt >>= next)) state =
      Program.transcript answer (ExceptT.run attempt) state := by
  rw [ExceptT.run_bind]
  refine (Program.transcript_bind answer _ _ state).trans ?_
  refine (congrArg _ ?_).trans (List.append_nil _)
  cases (Program.run answer (ExceptT.run attempt) state).1 with
  | ok value => exact silent value _
  | error failure => rfl

theorem transcript_mapFailure
    (attempt : Attempt Failure First)
    (wrap : Failure → Other)
    (state : State) :
    Program.transcript answer (ExceptT.run (attempt.mapFailure wrap)) state =
      Program.transcript answer (ExceptT.run attempt) state :=
  (Program.transcript_bind answer (ExceptT.run attempt) _ state).trans (List.append_nil _)

end Attempt

end IngressConvergence
