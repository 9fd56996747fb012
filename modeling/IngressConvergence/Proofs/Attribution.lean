import IngressConvergence.Proofs.FailFast

/-!
# Programs whose failures tell what was refused

What a failure should tell of a refused request can depend on what was answered before: the creation of a
load balancer fails differently after the deletion of another.  A program attributes its failures if, at
whatever request it is refused first, it gives up with a failure that is owed to the request, the cause
of the refusal and the past.  The property is kept by all the ways in which attempts are put together,
with the past passed on from one to the next.

What it means for runs is `Program.Attributes.stops_at`.  Programs that attribute their failures fail
fast, which is `Program.Attributes.failsFast`.
-/

namespace IngressConvergence

/-! ## The past of a program -/

/-- A request and the reply to it. -/
structure Answered where
  asked : Request
  reply : asked.Reply

/-- What was asked in an exchange and what was replied. -/
def Exchange.answered
    {State : Type}
    (exchange : Exchange State) : Answered :=
  ⟨exchange.asked, exchange.reply⟩

namespace Answered

variable {Known : Type} {tells : Answered → Option Known} {past : List Answered} {last : Answered}

/-- What the latest of the answers tells that tells anything. -/
def latest
    (tells : Answered → Option Known)
    (past : List Answered) : Option Known :=
  past.reverse.findSome? tells

theorem latest_append_singleton
    (tells : Answered → Option Known)
    (past : List Answered)
    (last : Answered) :
    latest tells (past ++ [last]) = (tells last).or (latest tells past) := by
  rw [latest, List.reverse_append, List.reverse_singleton, List.singleton_append,
    List.findSome?_cons]
  cases tells last <;> rfl

theorem latest_of_some
    {known : Known}
    (told : tells last = some known) :
    latest tells (past ++ [last]) = some known := by
  rw [latest_append_singleton, told, Option.some_or]

theorem latest_of_none
    (silent : tells last = none) :
    latest tells (past ++ [last]) = latest tells past := by
  rw [latest_append_singleton, silent, Option.none_or]

end Answered

/-! ## Programs that attribute their failures -/

namespace Program

variable {Failure Other First Second Value State : Type} {past : List Answered}

/-- A program that goes on for as long as nothing is refused, and gives up at the first refusal with a
failure that is owed to it. -/
inductive Attributes
    (owes : List Answered → Request → Cause → Failure → Prop) :
    List Answered → Program (Except Failure Value) → Prop where
  | done
      {past : List Answered}
      (result : Except Failure Value) :
      Attributes owes past (.done result)
  | request
      {past : List Answered}
      {asked : Request}
      {next : asked.Reply → Program (Except Failure Value)}
      (goesOn :
        ∀ reply, asked.refusal? reply = none →
          Attributes owes (past ++ [⟨asked, reply⟩]) (next reply))
      (stops :
        ∀ reply cause, asked.refusal? reply = some cause →
          GivesUp (owes past asked cause) (next reply)) :
      Attributes owes past (.request asked next)

/-- A program that attributes its failures may be followed by one that does, whatever happened until
then, and that puts failures into other words. -/
theorem Attributes.bind
    {owes : List Answered → Request → Cause → Failure → Prop}
    {owes' : List Answered → Request → Cause → Other → Prop}
    {program : Program (Except Failure First)}
    {next : Except Failure First → Program (Except Other Second)}
    (attributes : Attributes owes past program)
    (rest : ∀ past result, Attributes owes' past (next result))
    (translates :
      ∀ past asked cause failure, owes past asked cause failure →
        GivesUp (owes' past asked cause) (next (.error failure))) :
    Attributes owes' past (program.bind next) := by
  induction attributes with
  | done result => exact rest _ result
  | request goesOn stops ih =>
      refine .request ih ?_
      intro reply cause refused
      exact (stops reply cause refused).bind (translates _ _ cause)

/-! ### Failing fast -/

theorem GivesUp.failsFast
    {explained : Failure → Prop}
    {explains : Request → Cause → Failure → Prop}
    {program : Program (Except Failure Value)}
    (givesUp : GivesUp explained program) :
    FailsFast explains program := by
  induction givesUp with
  | fail isExplained => exact .done _
  | report rest ih => exact .request ih fun _ _ refused => nomatch refused

/-- What attributes its failures to the answers before them stops at the first refusal. -/
theorem Attributes.failsFast
    {owes : List Answered → Request → Cause → Failure → Prop}
    {explains : Request → Cause → Failure → Prop}
    {program : Program (Except Failure Value)}
    (attributes : Attributes owes past program)
    (explained :
      ∀ past asked cause failure, owes past asked cause failure → explains asked cause failure) :
    FailsFast explains program := by
  induction attributes with
  | done result => exact .done result
  | @request past asked next goesOn stops ih =>
      constructor
      · intro reply
        cases refusal : asked.refusal? reply with
        | none => exact ih reply refusal
        | some cause => exact (stops reply cause refusal).failsFast
      · intro reply cause refused
        exact (stops reply cause refused).mono (explained _ _ _)

/-! ### Runs -/

variable (answer : (asked : Request) → State → asked.Reply × State)

/-- A run in which a request is refused fails, as is owed to the request, to the cause of its refusal and
to all that was answered before. -/
theorem Attributes.stops_at
    {owes : List Answered → Request → Cause → Failure → Prop}
    {program : Program (Except Failure Value)}
    (attributes : Attributes owes past program)
    (state : State)
    {earlier later : List (Exchange State)}
    {refused : Exchange State}
    {cause : Cause}
    (split : program.transcript answer state = earlier ++ refused :: later)
    (refusal : refused.refusal? = some cause) :
    ∃ failure, (program.run answer state).1 = .error failure ∧
      owes (past ++ earlier.map Exchange.answered) refused.asked cause failure := by
  induction attributes generalizing state earlier with
  | done result => simp at split
  | @request past asked next goesOn stops ih =>
      rw [transcript_request] at split
      cases earlier with
      | nil =>
          rcases List.cons.inj split with ⟨rfl, rfl⟩
          rw [List.map_nil, List.append_nil]
          exact (stops _ cause refusal).run_eq_error answer _
      | cons head earlier =>
          rcases List.cons.inj split with ⟨rfl, tail⟩
          cases headRefusal : asked.refusal? (answer asked state).1 with
          | none =>
              have owed := ih _ headRefusal _ tail
              rwa [List.append_assoc] at owed
          | some other =>
              -- After a refusal there are reports only, and none of them is refused.
              have reports := (stops _ other headRefusal).onlyReports answer (answer asked state).2
              rcases reports refused (tail ▸ List.mem_append_right _ List.mem_cons_self) with
                ⟨event, isReport⟩
              rw [refused.refusal?_of_report isReport] at refusal
              cases refusal

end Program

/-! ## Attempts that attribute their failures -/

namespace Attempt

variable {Failure Other First Second Value : Type} {past : List Answered}

/-- An attempt fails only with errors that it owes to a refused request. -/
def Attributes
    (owes : List Answered → Request → Cause → Failure → Prop)
    (past : List Answered)
    (attempt : Attempt Failure Value) : Prop :=
  Program.Attributes owes past (ExceptT.run attempt)

namespace Attributes

variable {owes : List Answered → Request → Cause → Failure → Prop}

theorem ofExcept
    (result : Except Failure Value) :
    Attributes owes past (ExceptT.mk (.done result) : Attempt Failure Value) :=
  .done result

theorem pure
    (value : Value) :
    Attributes owes past (Pure.pure value : Attempt Failure Value) :=
  .done (.ok value)

theorem throw
    (failure : Failure) :
    Attributes owes past (MonadExcept.throw failure : Attempt Failure Value) :=
  .done (.error failure)

theorem ite
    {condition : Prop}
    [Decidable condition]
    {first second : Attempt Failure Value}
    (whenTrue : Attributes owes past first)
    (whenFalse : Attributes owes past second) :
    Attributes owes past (if condition then first else second) := by
  by_cases holds : condition
  · rwa [if_pos holds]
  · rwa [if_neg holds]

/-- What follows an attempt has to attribute its failures whatever happened until then. -/
theorem bind
    {attempt : Attempt Failure First}
    {next : First → Attempt Failure Second}
    (first : Attributes owes past attempt)
    (rest : ∀ past value, Attributes owes past (next value)) :
    Attributes owes past (attempt >>= next) := by
  rw [Attributes, ExceptT.run_bind]
  apply Program.Attributes.bind first
  · intro past result
    cases result with
    | ok value => exact rest past value
    | error failure => exact .done (.error failure)
  · intro past asked cause failure isOwed
    exact .fail isOwed

theorem mapFailure
    {owes : List Answered → Request → Cause → Other → Prop}
    {attempt : Attempt Failure Value}
    {wrap : Failure → Other}
    (first :
      Attributes (fun past asked cause failure => owes past asked cause (wrap failure)) past
        attempt) :
    Attributes owes past (attempt.mapFailure wrap) := by
  apply Program.Attributes.bind first fun past result => .done _
  intro past asked cause failure isOwed
  exact .fail isOwed

theorem reporting
    {attempt : Attempt Failure Value}
    (first : Attributes owes past attempt)
    (event : Except Failure Value → Option Event) :
    Attributes owes past (attempt.reporting event) := by
  apply Program.Attributes.bind first
  · intro past result
    split
    · exact .request (fun _ _ => .done _) fun _ _ refused => nomatch refused
    · exact .done _
  · intro past asked cause failure isOwed
    split
    · exact .report fun _ => .fail isOwed
    · exact .fail isOwed

/-! ### Single requests -/

/-- What follows a single request may go by the reply to it. -/
theorem single_bind
    {asked : Request}
    {result : asked.Reply → Except Failure First}
    {next : First → Attempt Failure Second}
    (owed :
      ∀ reply cause, asked.refusal? reply = some cause →
        ∃ failure, result reply = .error failure ∧ owes past asked cause failure)
    (rest :
      ∀ reply value, result reply = .ok value →
        Attributes owes (past ++ [⟨asked, reply⟩]) (next value)) :
    Attributes owes past
      ((ExceptT.mk (.request asked fun reply => .done (result reply)) : Attempt Failure First) >>=
        next) := by
  constructor
  · intro reply accepted
    show Program.Attributes owes _ (ExceptT.bindCont next (result reply))
    cases replied : result reply with
    | ok value => exact rest reply value replied
    | error failure => exact .done (.error failure)
  · intro reply cause refusal
    rcases owed reply cause refusal with ⟨failure, fails, isOwed⟩
    show Program.GivesUp _ (ExceptT.bindCont next (result reply))
    rw [fails]
    exact .fail isOwed

theorem cloud_bind
    {call : CloudCall}
    {wrap : CloudError → Failure}
    {next : call.Answer → Attempt Failure Value}
    (owed : ∀ error, owes past (.cloud call) (.cloud error) (wrap error))
    (rest :
      ∀ answer : call.Answer,
        Attributes owes (past ++ [⟨.cloud call, Except.ok answer⟩]) (next answer)) :
    Attributes owes past (Attempt.cloud call wrap >>= next) := by
  apply single_bind
  · rintro (error | answer) cause refusal
    · cases refusal
      exact ⟨_, rfl, owed error⟩
    · cases refusal
  · rintro (error | answer) value replied
    · cases replied
    · cases replied
      exact rest _

theorem report_bind
    {event : Event}
    {next : Unit → Attempt Failure Value}
    (rest : Attributes owes (past ++ [⟨.report event, ()⟩]) (next ())) :
    Attributes owes past (Attempt.report event >>= next) :=
  single_bind (fun _ _ refused => nomatch refused) fun _ _ _ => rest

/-- A request on its own is one that nothing follows. -/
theorem of_bind_pure
    {attempt : Attempt Failure Value}
    (attributes : Attributes owes past (attempt >>= Pure.pure)) :
    Attributes owes past attempt :=
  bind_pure attempt ▸ attributes

theorem cloud
    {call : CloudCall}
    {wrap : CloudError → Failure}
    (owed : ∀ error, owes past (.cloud call) (.cloud error) (wrap error)) :
    Attributes owes past (Attempt.cloud call wrap) :=
  of_bind_pure (cloud_bind owed fun answer => .pure answer)

theorem collaborator
    {call : CollaboratorCall}
    {wrap : Cause → Failure}
    (owed : ∀ cause, owes past (.collaborator call) cause (wrap cause)) :
    Attributes owes past (Attempt.collaborator call wrap) := by
  apply of_bind_pure
  apply single_bind
  · rintro (failure | answer) cause refusal
    · cases refusal
      exact ⟨_, rfl, owed failure⟩
    · cases refusal
  · exact fun _ value _ => .pure value

theorem checkpoint
    {operation : String}
    {wrap : CloudError → Failure}
    (owed : ∀ error, owes past (.checkpoint operation) (.cloud error) (wrap error)) :
    Attributes owes past (Attempt.checkpoint operation wrap) := by
  apply of_bind_pure
  apply single_bind
  · rintro (error | done) cause refusal
    · cases refusal
      exact ⟨_, rfl, owed error⟩
    · cases refusal
  · exact fun _ value _ => .pure value

theorem annotationsOf
    {key : IngressKey}
    {wrap : Cause → Failure}
    (owed : ∀ cause, owes past (.annotationsOf key) cause (wrap cause)) :
    Attributes owes past (Attempt.annotationsOf key wrap) := by
  apply of_bind_pure
  apply single_bind
  · rintro (failure | answer) cause refusal
    · cases refusal
      exact ⟨_, rfl, owed failure⟩
    · cases refusal
  · exact fun _ value _ => .pure value

theorem configuration :
    Attributes owes past Attempt.configuration :=
  of_bind_pure (single_bind (fun _ _ refused => nomatch refused) fun _ value _ => .pure value)

theorem report
    (event : Event) :
    Attributes owes past (Attempt.report event) :=
  of_bind_pure (report_bind (.pure ()))

end Attributes

end Attempt

end IngressConvergence
