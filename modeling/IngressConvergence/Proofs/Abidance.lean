import IngressConvergence.Proofs.Attribution
import IngressConvergence.Proofs.Requests

/-!
# Programs that abide by a rule

What a program may ask for can depend on what was answered before: a step of a cycle is not taken before
it was asked whether it may be.  A program abides by a rule if every request that it comes to is one that
the rule allows after all that was answered until then, whatever the answers are.  The property is kept by
all the ways in which attempts are put together, where each part leaves behind what the next one may rely
on.

What it means for runs is `Program.Abides.rule_of_split` and `Program.Abides.ends_run`.
-/

namespace IngressConvergence

namespace Program

variable {First Second Value State : Type}
  {rule : List Answered → Request → Prop} {past : List Answered}

/-- A program gives a value when its requests are answered in a certain way. -/
inductive Gives : Program Value → List Answered → Value → Prop where
  | done (value : Value) : Gives (.done value) [] value
  | request
      {asked : Request}
      {next : asked.Reply → Program Value}
      {reply : asked.Reply}
      {answers : List Answered}
      {value : Value}
      (rest : Gives (next reply) answers value) :
      Gives (.request asked next) (⟨asked, reply⟩ :: answers) value

/-- Answers that begin alike give the same value. -/
theorem Gives.unique
    {program : Program Value}
    {answers others later laterToo : List Answered}
    {value other : Value}
    (gives : program.Gives answers value)
    (givesToo : program.Gives others other)
    (alike : answers ++ later = others ++ laterToo) :
    value = other := by
  induction gives generalizing others with
  | done value =>
      cases givesToo
      rfl
  | request rest ih =>
      cases givesToo with
      | request restToo =>
          rcases List.cons.inj alike with ⟨same, tail⟩
          cases same
          exact ih restToo tail

/-- A program whose requests are allowed by a rule after what was answered before, and which is done in
such a way that what was answered then fits its value. -/
inductive Abides
    (rule : List Answered → Request → Prop)
    (ends : List Answered → Value → Prop) :
    List Answered → Program Value → Prop where
  | done
      {past : List Answered}
      {value : Value}
      (fits : ends past value) :
      Abides rule ends past (.done value)
  | request
      {past : List Answered}
      {asked : Request}
      {next : asked.Reply → Program Value}
      (allowed : rule past asked)
      (rest : ∀ reply, Abides rule ends (past ++ [⟨asked, reply⟩]) (next reply)) :
      Abides rule ends past (.request asked next)

theorem Abides.mono
    {ends ends' : List Answered → Value → Prop}
    {program : Program Value}
    (abides : Abides rule ends past program)
    (implies : ∀ past value, ends past value → ends' past value) :
    Abides rule ends' past program := by
  induction abides with
  | done fits => exact .done (implies _ _ fits)
  | request allowed _ ih => exact .request allowed ih

theorem Abides.bind
    {middle : List Answered → First → Prop}
    {ends : List Answered → Second → Prop}
    {program : Program First}
    {next : First → Program Second}
    (first : Abides rule middle past program)
    (rest : ∀ past value, middle past value → Abides rule ends past (next value)) :
    Abides rule ends past (program.bind next) := by
  induction first with
  | done fits => exact rest _ _ fits
  | request allowed _ ih => exact .request allowed ih

/-- A program that asks only for some requests abides by a rule if some invariant of what was answered
allows these requests and is kept by the answers to them. -/
theorem Abides.of_asksOnly
    {allowed : Request → Prop}
    {Invariant : List Answered → Prop}
    {program : Program Value}
    (asks : program.AsksOnly allowed)
    (allows : ∀ past asked, Invariant past → allowed asked → rule past asked)
    (preserved :
      ∀ past asked reply, Invariant past → allowed asked → Invariant (past ++ [⟨asked, reply⟩]))
    (initial : Invariant past) :
    Abides rule
      (fun after value => Invariant after ∧
        ∃ answers, after = past ++ answers ∧ program.Gives answers value)
      past program := by
  induction program generalizing past with
  | done value => exact .done ⟨initial, [], (List.append_nil past).symm, .done value⟩
  | request asked next ih =>
      refine .request (allows past asked initial asks.1) fun reply => ?_
      have rest := ih reply (asks.2 reply) (preserved past asked reply initial asks.1)
      refine rest.mono ?_
      rintro after value ⟨invariant, answers, rfl, gives⟩
      exact ⟨invariant, _, List.append_assoc _ _ _, gives.request⟩

/-! ## Runs -/

variable (answer : (asked : Request) → State → asked.Reply × State)

/-- A run gives its value by what is answered in it. -/
theorem gives_run
    (program : Program Value)
    (state : State) :
    program.Gives ((program.transcript answer state).map Exchange.answered)
      (program.run answer state).1 := by
  induction program generalizing state with
  | done value => exact .done value
  | request asked next ih => exact (ih _ _).request

/-- Every request of a run is allowed after what was answered before. -/
theorem Abides.rule_of_split
    {ends : List Answered → Value → Prop}
    {program : Program Value}
    (abides : Abides rule ends past program)
    (state : State)
    {earlier later : List (Exchange State)}
    {exchange : Exchange State}
    (split : program.transcript answer state = earlier ++ exchange :: later) :
    rule (past ++ earlier.map Exchange.answered) exchange.asked := by
  induction abides generalizing state earlier with
  | done fits => simp at split
  | request allowed rest ih =>
      rw [transcript_request] at split
      cases earlier with
      | nil =>
          rcases List.cons.inj split with ⟨rfl, -⟩
          rw [List.map_nil, List.append_nil]
          exact allowed
      | cons head earlier =>
          rcases List.cons.inj split with ⟨rfl, tail⟩
          have later := ih _ _ tail
          rwa [List.append_assoc] at later

/-- A run ends as its value and all that was answered in it allow. -/
theorem Abides.ends_run
    {ends : List Answered → Value → Prop}
    {program : Program Value}
    (abides : Abides rule ends past program)
    (state : State) :
    ends (past ++ (program.transcript answer state).map Exchange.answered)
      (program.run answer state).1 := by
  induction abides generalizing state with
  | done fits =>
      rw [transcript_done, List.map_nil, List.append_nil]
      exact fits
  | @request past asked next allowed rest ih =>
      have ended := ih (answer asked state).1 (answer asked state).2
      rwa [List.append_assoc] at ended

end Program

/-! ## Attempts -/

namespace Attempt

variable {Failure Other First Second Value : Type}
  {rule : List Answered → Request → Prop} {ends : List Answered → Value → Prop}
  {past : List Answered}

/-- An attempt abides by a rule if its program does; nothing is asked of the end of one that fails. -/
def Abides
    (rule : List Answered → Request → Prop)
    (ends : List Answered → Value → Prop)
    (past : List Answered)
    (attempt : Attempt Failure Value) : Prop :=
  Program.Abides rule (fun after result => ∀ value, result = .ok value → ends after value) past
    (ExceptT.run attempt)

namespace Abides

theorem pure
    {value : Value}
    (fits : ends past value) :
    Abides rule ends past (Pure.pure value : Attempt Failure Value) :=
  .done fun _ same => Except.ok.inj same ▸ fits

theorem bind
    {middle : List Answered → First → Prop}
    {ends : List Answered → Second → Prop}
    {attempt : Attempt Failure First}
    {next : First → Attempt Failure Second}
    (first : Abides rule middle past attempt)
    (rest : ∀ past value, middle past value → Abides rule ends past (next value)) :
    Abides rule ends past (attempt >>= next) := by
  rw [Abides, ExceptT.run_bind]
  refine Program.Abides.bind first fun after result fits => ?_
  cases result with
  | ok value => exact rest after value (fits value rfl)
  | error failure => exact .done fun _ same => nomatch same

theorem mono
    {ends' : List Answered → Value → Prop}
    {attempt : Attempt Failure Value}
    (abides : Abides rule ends past attempt)
    (implies : ∀ past value, ends past value → ends' past value) :
    Abides rule ends' past attempt :=
  Program.Abides.mono abides fun past _ fits value same => implies past value (fits value same)

theorem mapFailure
    {attempt : Attempt Failure Value}
    (abides : Abides rule ends past attempt)
    (wrap : Failure → Other) :
    Abides rule ends past (attempt.mapFailure wrap) := by
  refine Program.Abides.bind abides fun after result fits => .done fun value same => ?_
  cases result with
  | ok given => exact fits value (congrArg Except.ok (Except.ok.inj same))
  | error failure => cases same

/-- What is reported at the end has to be allowed there, and not to matter. -/
theorem reporting
    {attempt : Attempt Failure Value}
    (abides : Abides rule ends past attempt)
    (allowed : ∀ past event, rule past (.report event))
    (silent : ∀ past event value, ends past value → ends (past ++ [⟨.report event, ()⟩]) value)
    (event : Except Failure Value → Option Event) :
    Abides rule ends past (attempt.reporting event) := by
  refine Program.Abides.bind abides fun after result fits => ?_
  split
  · exact .request (allowed _ _) fun _ =>
      .done fun value same => silent _ _ value (fits value same)
  · exact .done fits

/-- What follows a single request may rely on the reply to it. -/
theorem single_bind
    {asked : Request}
    {result : asked.Reply → Except Failure First}
    {next : First → Attempt Failure Value}
    (allowed : rule past asked)
    (rest :
      ∀ reply value, result reply = .ok value →
        Abides rule ends (past ++ [⟨asked, reply⟩]) (next value)) :
    Abides rule ends past
      ((ExceptT.mk (.request asked fun reply => .done (result reply)) : Attempt Failure First) >>=
        next) := by
  refine .request allowed fun reply => ?_
  show Program.Abides rule _ _ (ExceptT.bindCont next (result reply))
  cases replied : result reply with
  | ok value => exact rest reply value replied
  | error failure => exact .done fun _ same => nomatch same

/-- An attempt whose requests are all allowed abides by a rule that allows them, and keeps what each of them
keeps. -/
theorem of_asksOnly
    {allowed : Request → Prop}
    {Invariant : List Answered → Prop}
    {attempt : Attempt Failure Value}
    (asks : attempt.AsksOnly allowed)
    (allows : ∀ past asked, Invariant past → allowed asked → rule past asked)
    (preserved :
      ∀ past asked reply, Invariant past → allowed asked → Invariant (past ++ [⟨asked, reply⟩]))
    (initial : Invariant past) :
    Abides rule
      (fun after value => Invariant after ∧
        ∃ answers, after = past ++ answers ∧ (ExceptT.run attempt).Gives answers (.ok value))
      past attempt := by
  refine (Program.Abides.of_asksOnly asks allows preserved initial).mono ?_
  rintro after result fits value rfl
  exact fits

end Abides

end Attempt

end IngressConvergence
