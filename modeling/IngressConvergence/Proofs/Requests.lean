import IngressConvergence.Program

/-!
# Programs that ask only for some requests

What a program can ask for is a property of the program alone: it asks only for allowed requests if
every request that it can come to is allowed, whatever the replies are.  The property is kept by all the
ways in which attempts are put together.  What every allowed exchange preserves, a run preserves; this is
`Program.AsksOnly.run_invariant`.
-/

namespace IngressConvergence

namespace Program

variable {First Second Value State : Type} {allowed : Request → Prop}

/-- Every request of a program is allowed, whatever the replies are. -/
def AsksOnly
    (allowed : Request → Prop) :
    Program Value → Prop
  | .done _ => True
  | .request asked next => allowed asked ∧ ∀ reply, (next reply).AsksOnly allowed

theorem AsksOnly.bind
    {program : Program First}
    {next : First → Program Second}
    (asks : program.AsksOnly allowed)
    (rest : ∀ value, (next value).AsksOnly allowed) :
    (program.bind next).AsksOnly allowed := by
  induction program with
  | done value => exact rest value
  | request asked after ih => exact ⟨asks.1, fun reply => ih reply (asks.2 reply)⟩

/-- What every allowed exchange preserves, a run of allowed requests preserves. -/
theorem AsksOnly.run_invariant
    {answer : (asked : Request) → State → asked.Reply × State}
    {Invariant : State → Prop}
    {program : Program Value}
    (asks : program.AsksOnly allowed)
    (preserved :
      ∀ asked state, allowed asked → Invariant state → Invariant (answer asked state).2)
    (state : State)
    (initial : Invariant state) :
    Invariant (program.run answer state).2 := by
  induction program generalizing state with
  | done value => exact initial
  | request asked next ih =>
      exact ih _ (asks.2 _) _ (preserved asked state asks.1 initial)

end Program

namespace Attempt

variable {Failure Other First Second Value : Type} {allowed : Request → Prop}

/-- An attempt makes only requests that are allowed, whatever the replies are. -/
def AsksOnly
    (allowed : Request → Prop)
    (attempt : Attempt Failure Value) : Prop :=
  Program.AsksOnly allowed (ExceptT.run attempt)

namespace AsksOnly

theorem ofExcept
    (result : Except Failure Value) :
    AsksOnly allowed (ExceptT.mk (.done result) : Attempt Failure Value) :=
  trivial

/-- An attempt that is a single request asks for nothing else. -/
theorem single
    {asked : Request}
    {result : asked.Reply → Except Failure Value}
    (isAllowed : allowed asked) :
    AsksOnly allowed
      (ExceptT.mk (.request asked fun reply => .done (result reply)) : Attempt Failure Value) :=
  ⟨isAllowed, fun _ => trivial⟩

theorem ite
    {condition : Prop}
    [Decidable condition]
    {first second : Attempt Failure Value}
    (whenTrue : AsksOnly allowed first)
    (whenFalse : AsksOnly allowed second) :
    AsksOnly allowed (if condition then first else second) := by
  by_cases holds : condition
  · rwa [if_pos holds]
  · rwa [if_neg holds]

theorem bind
    {attempt : Attempt Failure First}
    {next : First → Attempt Failure Second}
    (first : AsksOnly allowed attempt)
    (rest : ∀ value, AsksOnly allowed (next value)) :
    AsksOnly allowed (attempt >>= next) := by
  apply Program.AsksOnly.bind first
  intro result
  cases result with
  | ok value => exact rest value
  | error failure => exact trivial

theorem mapFailure
    {attempt : Attempt Failure Value}
    (asks : AsksOnly allowed attempt)
    (wrap : Failure → Other) :
    AsksOnly allowed (attempt.mapFailure wrap) :=
  Program.AsksOnly.bind asks fun _ => trivial

theorem reporting
    {attempt : Attempt Failure Value}
    (asks : AsksOnly allowed attempt)
    (isAllowed : ∀ event, allowed (.report event))
    (event : Except Failure Value → Option Event) :
    AsksOnly allowed (attempt.reporting event) := by
  refine Program.AsksOnly.bind asks fun result => ?_
  split
  · exact ⟨isAllowed _, fun _ => trivial⟩
  · exact trivial

end AsksOnly

end Attempt

end IngressConvergence
