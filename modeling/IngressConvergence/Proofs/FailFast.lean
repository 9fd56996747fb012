import IngressConvergence.Proofs.Transcript

/-!
# Programs that stop at the first failure

A program fails fast when a refused request is the last thing it asks for: after it, the program only
reports, and then it fails itself, with a failure that the refusal explains.  The property is a
property of the program alone, so it holds under every way of answering.

The main statement is `Program.FailsFast.stops_after`, which says what it means for runs: after a
refusal the result is an explained failure, and whatever is still asked is a report.
-/

namespace IngressConvergence

/-! ## Giving up and failing fast -/

namespace Program

variable {Failure Other First Second Value State : Type}

/-- A program that only reports and then fails, with a failure of a given kind. -/
inductive GivesUp
    (explained : Failure → Prop) :
    Program (Except Failure Value) → Prop where
  | fail
      {failure : Failure}
      (isExplained : explained failure) :
      GivesUp explained (.done (.error failure))
  | report
      {event : Event}
      {next : (Request.report event).Reply → Program (Except Failure Value)}
      (rest : ∀ reply, GivesUp explained (next reply)) :
      GivesUp explained (.request (.report event) next)

/-- A program that gives up as soon as a request is refused, with a failure that is explained by the
request and the cause of its refusal. -/
inductive FailsFast
    (explains : Request → Cause → Failure → Prop) :
    Program (Except Failure Value) → Prop where
  | done
      (result : Except Failure Value) :
      FailsFast explains (.done result)
  | request
      {asked : Request}
      {next : asked.Reply → Program (Except Failure Value)}
      (goesOn : ∀ reply, FailsFast explains (next reply))
      (stops :
        ∀ reply cause, asked.refusal? reply = some cause →
          GivesUp (explains asked cause) (next reply)) :
      FailsFast explains (.request asked next)

theorem GivesUp.mono
    {explained explained' : Failure → Prop}
    {program : Program (Except Failure Value)}
    (givesUp : GivesUp explained program)
    (implies : ∀ failure, explained failure → explained' failure) :
    GivesUp explained' program := by
  induction givesUp with
  | fail isExplained => exact .fail (implies _ isExplained)
  | report rest ih => exact .report ih

/-- What follows a program that gives up may add reports and put its failure into other words. -/
theorem GivesUp.bind
    {explained : Failure → Prop}
    {explained' : Other → Prop}
    {program : Program (Except Failure First)}
    {next : Except Failure First → Program (Except Other Second)}
    (givesUp : GivesUp explained program)
    (translates :
      ∀ failure, explained failure → GivesUp explained' (next (.error failure))) :
    GivesUp explained' (program.bind next) := by
  induction givesUp with
  | fail isExplained => exact translates _ isExplained
  | report rest ih => exact .report ih

/-! ## Runs -/

variable (answer : (asked : Request) → State → asked.Reply × State)

theorem GivesUp.run_eq_error
    {explained : Failure → Prop}
    {program : Program (Except Failure Value)}
    (givesUp : GivesUp explained program)
    (state : State) :
    ∃ failure, (program.run answer state).1 = .error failure ∧ explained failure := by
  induction givesUp generalizing state with
  | fail isExplained => exact ⟨_, rfl, isExplained⟩
  | report rest ih => exact ih _ _

/-- A program that has given up makes reports, and nothing else. -/
theorem GivesUp.onlyReports
    {explained : Failure → Prop}
    {program : Program (Except Failure Value)}
    (givesUp : GivesUp explained program)
    (state : State) :
    ∀ exchange ∈ program.transcript answer state, ∃ event, exchange.asked = .report event := by
  induction givesUp generalizing state with
  | fail isExplained =>
      intro exchange member
      cases member
  | report rest ih =>
      intro exchange member
      rw [transcript_request] at member
      rcases List.mem_cons.mp member with rfl | later
      · exact ⟨_, rfl⟩
      · exact ih _ _ exchange later

/-- After a refusal a program that fails fast fails, as the refusal explains, and only reports. -/
theorem FailsFast.stops_after
    {explains : Request → Cause → Failure → Prop}
    {program : Program (Except Failure Value)}
    (failsFast : FailsFast explains program)
    (state : State)
    {earlier later : List (Exchange State)}
    {refused : Exchange State}
    {cause : Cause}
    (split : program.transcript answer state = earlier ++ refused :: later)
    (refusal : refused.refusal? = some cause) :
    (∃ failure, (program.run answer state).1 = .error failure ∧
      explains refused.asked cause failure) ∧
      ∀ exchange ∈ later, ∃ event, exchange.asked = .report event := by
  induction failsFast generalizing state earlier with
  | done result => simp at split
  | @request asked next goesOn stops ih =>
      rw [transcript_request] at split
      cases earlier with
      | nil =>
          rcases List.cons.inj split with ⟨rfl, rfl⟩
          have givesUp := stops _ cause refusal
          exact ⟨givesUp.run_eq_error answer _, givesUp.onlyReports answer _⟩
      | cons head earlier =>
          rcases List.cons.inj split with ⟨-, tail⟩
          exact ih _ _ tail

/-- An attempt that succeeds was refused nothing. -/
theorem FailsFast.refusal?_eq_none
    {explains : Request → Cause → Failure → Prop}
    {program : Program (Except Failure Value)}
    (failsFast : FailsFast explains program)
    (state : State)
    {value : Value}
    (succeeds : (program.run answer state).1 = .ok value) :
    ∀ exchange ∈ program.transcript answer state, exchange.refusal? = none := by
  intro exchange member
  cases refusal : exchange.refusal? with
  | none => rfl
  | some cause =>
      rcases List.append_of_mem member with ⟨earlier, later, split⟩
      rcases failsFast.stops_after answer state split refusal with ⟨⟨failure, fails, -⟩, -⟩
      rw [succeeds] at fails
      cases fails

/-- What is asked before anything but a report was not refused. -/
theorem FailsFast.refusal?_eq_none_before
    {explains : Request → Cause → Failure → Prop}
    {program : Program (Except Failure Value)}
    (failsFast : FailsFast explains program)
    (state : State)
    {earlier later : List (Exchange State)}
    {asks : Exchange State}
    (split : program.transcript answer state = earlier ++ asks :: later)
    (noReport : ∀ event, asks.asked ≠ .report event) :
    ∀ exchange ∈ earlier, exchange.refusal? = none := by
  intro exchange member
  cases refusal : exchange.refusal? with
  | none => rfl
  | some cause =>
      rcases List.append_of_mem member with ⟨first, rest, rfl⟩
      rw [List.append_assoc, List.cons_append] at split
      rcases failsFast.stops_after answer state split refusal with ⟨-, onlyReports⟩
      rcases onlyReports asks (List.mem_append_right _ List.mem_cons_self) with ⟨event, isReport⟩
      exact absurd isReport (noReport event)

end Program

/-- An attempt that, once it is refused, only reports and fails. -/
def Attempt.FailsFast
    {Failure Value : Type}
    (explains : Request → Cause → Failure → Prop)
    (attempt : Attempt Failure Value) : Prop :=
  Program.FailsFast explains (ExceptT.run attempt)

end IngressConvergence
