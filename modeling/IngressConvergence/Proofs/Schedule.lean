import IngressConvergence.Proofs.World.Record

/-!
# Schedules

A schedule is a list of stages, each of which is any number of calls to the cloud or exactly one call
to a collaborator.  An attempt keeps to a schedule if it goes through the stages in their order,
whatever the replies are, and may stop on the way only by failing.  This module shows that the
property is kept by all the ways in which attempts are put together, and what it says about the
effects that are asked for.
-/

namespace IngressConvergence

/-- A part of a schedule. -/
inductive Stage where
  /-- Any number of calls to the cloud. -/
  | cloud
  /-- One call to the collaborator of a point. -/
  | collaborator (point : String)
deriving DecidableEq

/-! ## Effects in the order of a schedule -/

/-- Effects that go through the stages of a schedule in their order and may stop anywhere. -/
inductive KeepsTo : List Stage → List Effect → Prop where
  | stop
      (stages : List Stage) :
      KeepsTo stages []
  | skip
      {stages : List Stage}
      {effects : List Effect}
      (rest : KeepsTo stages effects) :
      KeepsTo (.cloud :: stages) effects
  | cloud
      {stages : List Stage}
      {effects : List Effect}
      (call : CloudCall)
      (rest : KeepsTo (.cloud :: stages) effects) :
      KeepsTo (.cloud :: stages) (.cloud call :: effects)
  | collaborator
      {stages : List Stage}
      {effects : List Effect}
      (call : CollaboratorCall)
      (rest : KeepsTo stages effects) :
      KeepsTo (.collaborator call.point :: stages) (.collaborator call :: effects)

namespace KeepsTo

variable {stages : List Stage} {effects earlier later : List Effect}

/-- What begins effects in the order of a schedule is itself in its order. -/
theorem of_prefix
    (keeps : KeepsTo stages effects)
    (begins : earlier <+: effects) :
    KeepsTo stages earlier := by
  induction keeps generalizing earlier with
  | stop stages =>
      rw [List.prefix_nil.mp begins]
      exact .stop stages
  | skip rest ih => exact .skip (ih begins)
  | cloud call rest ih =>
      rcases List.prefix_cons_iff.mp begins with rfl | ⟨tail, rfl, shorter⟩
      · exact .stop _
      · exact .cloud call (ih shorter)
  | collaborator call rest ih =>
      rcases List.prefix_cons_iff.mp begins with rfl | ⟨tail, rfl, shorter⟩
      · exact .stop _
      · exact .collaborator call (ih shorter)

/-- Nothing follows the last stage of a schedule, if that is a call to a collaborator of its own. -/
theorem nothing_after_last
    {call : CollaboratorCall}
    (keeps : KeepsTo stages (earlier ++ .collaborator call :: later))
    {front : List Stage}
    (ends : stages = front ++ [.collaborator call.point])
    (unnamed : Stage.collaborator call.point ∉ front) :
    later = [] := by
  generalize whole : earlier ++ Effect.collaborator call :: later = effects at keeps
  induction keeps generalizing earlier front with
  | stop stages => cases earlier <;> cases whole
  | skip rest ih =>
      cases front with
      | nil => cases ends
      | cons head front =>
          rcases List.cons.inj ends with ⟨rfl, rfl⟩
          exact ih rfl (fun member => unnamed (List.mem_cons_of_mem _ member)) whole
  | cloud made rest ih =>
      cases earlier with
      | nil => cases whole
      | cons head earlier => exact ih ends unnamed (List.cons.inj whole).2
  | collaborator made rest ih =>
      cases front with
      | nil =>
          rcases List.cons.inj ends with ⟨-, rfl⟩
          cases rest
          cases earlier with
          | nil => exact (List.cons.inj whole).2
          | cons head earlier => cases earlier <;> cases (List.cons.inj whole).2
      | cons head front =>
          rcases List.cons.inj ends with ⟨rfl, rfl⟩
          cases earlier with
          | nil =>
              rcases List.cons.inj whole with ⟨same, -⟩
              cases same
              exact absurd List.mem_cons_self unnamed
          | cons head earlier =>
              exact ih rfl (fun member => unnamed (List.mem_cons_of_mem _ member))
                (List.cons.inj whole).2

end KeepsTo

/-! ## Programs in the order of a schedule -/

namespace Program

variable {Failure Other First Second Value State : Type}

/-- A program that goes through the stages of a schedule in their order and stops before their end
only by failing; `left` says which stages may be left when it succeeds. -/
inductive KeepsTo
    (left : List Stage → Prop) :
    List Stage → Program (Except Failure Value) → Prop where
  | failed
      (stages : List Stage)
      (failure : Failure) :
      KeepsTo left stages (.done (.error failure))
  | succeeded
      {stages : List Stage}
      (isLeft : left stages)
      (value : Value) :
      KeepsTo left stages (.done (.ok value))
  | skip
      {stages : List Stage}
      {program : Program (Except Failure Value)}
      (rest : KeepsTo left stages program) :
      KeepsTo left (.cloud :: stages) program
  | cloud
      {stages : List Stage}
      {call : CloudCall}
      {next : (Request.cloud call).Reply → Program (Except Failure Value)}
      (rest : ∀ reply, KeepsTo left (.cloud :: stages) (next reply)) :
      KeepsTo left (.cloud :: stages) (.request (.cloud call) next)
  | collaborator
      {stages : List Stage}
      {call : CollaboratorCall}
      {next : (Request.collaborator call).Reply → Program (Except Failure Value)}
      (rest : ∀ reply, KeepsTo left stages (next reply)) :
      KeepsTo left (.collaborator call.point :: stages) (.request (.collaborator call) next)
  | silent
      {stages : List Stage}
      {asked : Request}
      {next : asked.Reply → Program (Except Failure Value)}
      (noEffect : asked.effects = [])
      (rest : ∀ reply, KeepsTo left stages (next reply)) :
      KeepsTo left stages (.request asked next)

/-- What follows a program takes up the schedule where the program left it. -/
theorem KeepsTo.bind
    {left left' : List Stage → Prop}
    {stages : List Stage}
    {program : Program (Except Failure First)}
    {next : Except Failure First → Program (Except Other Second)}
    (keeps : program.KeepsTo left stages)
    (afterSuccess :
      ∀ value remaining, left remaining → (next (.ok value)).KeepsTo left' remaining)
    (afterFailure :
      ∀ failure remaining, (next (.error failure)).KeepsTo left' remaining) :
    (program.bind next).KeepsTo left' stages := by
  induction keeps with
  | failed stages failure => exact afterFailure failure stages
  | succeeded isLeft value => exact afterSuccess value _ isLeft
  | skip rest ih => exact .skip ih
  | cloud rest ih => exact .cloud ih
  | collaborator rest ih => exact .collaborator ih
  | silent noEffect rest ih => exact .silent noEffect ih

theorem KeepsTo.weaken
    {left left' : List Stage → Prop}
    {stages : List Stage}
    {program : Program (Except Failure Value)}
    (keeps : program.KeepsTo left stages)
    (allows : ∀ remaining, left remaining → left' remaining) :
    program.KeepsTo left' stages := by
  induction keeps with
  | failed stages failure => exact .failed stages failure
  | succeeded isLeft value => exact .succeeded (allows _ isLeft) value
  | skip rest ih => exact .skip ih
  | cloud rest ih => exact .cloud ih
  | collaborator rest ih => exact .collaborator ih
  | silent noEffect rest ih => exact .silent noEffect ih

/-- Whatever the replies, what is asked for has its effects in the order of the schedule. -/
theorem KeepsTo.effects
    (answer : (asked : Request) → State → asked.Reply × State)
    {left : List Stage → Prop}
    {stages : List Stage}
    {program : Program (Except Failure Value)}
    (keeps : program.KeepsTo left stages)
    (state : State) :
    IngressConvergence.KeepsTo stages
      ((program.transcript answer state).flatMap fun exchange => exchange.asked.effects) := by
  induction keeps generalizing state with
  | failed stages failure => exact .stop stages
  | succeeded isLeft value => exact .stop _
  | skip rest ih => exact .skip (ih state)
  | cloud rest ih => exact .cloud _ (ih _ _)
  | collaborator rest ih => exact .collaborator _ (ih _ _)
  | silent noEffect rest ih =>
      rw [transcript_request, List.flatMap_cons, noEffect]
      exact ih _ _

end Program

/-! ## Attempts in the order of a schedule -/

namespace Attempt

variable {Failure Other First Second Value : Type}

/-- The stages that are left are the ones that should remain. -/
def Exactly
    (remaining left : List Stage) : Prop :=
  left = remaining

theorem Exactly.refl
    (remaining : List Stage) :
    Exactly remaining remaining := rfl

/-- An attempt that keeps to a schedule; when it succeeds, exactly the remaining stages are left. -/
def KeepsTo
    (stages remaining : List Stage)
    (attempt : Attempt Failure Value) : Prop :=
  Program.KeepsTo (Exactly remaining) stages (ExceptT.run attempt)

namespace KeepsTo

variable {stages middle remaining : List Stage}

theorem pure
    (value : Value) :
    KeepsTo stages stages (Pure.pure value : Attempt Failure Value) :=
  .succeeded (Exactly.refl stages) value

theorem throw
    (failure : Failure) :
    KeepsTo stages remaining (MonadExcept.throw failure : Attempt Failure Value) :=
  .failed stages failure

theorem ofExcept
    (result : Except Failure Value) :
    KeepsTo stages stages (ExceptT.mk (.done result) : Attempt Failure Value) := by
  cases result with
  | ok value => exact .succeeded (Exactly.refl _) value
  | error failure => exact .failed stages failure

theorem ite
    {condition : Prop}
    [Decidable condition]
    {first second : Attempt Failure Value}
    (whenTrue : KeepsTo stages remaining first)
    (whenFalse : KeepsTo stages remaining second) :
    KeepsTo stages remaining (if condition then first else second) := by
  by_cases holds : condition
  · rwa [if_pos holds]
  · rwa [if_neg holds]

theorem skip
    {attempt : Attempt Failure Value}
    (rest : KeepsTo stages remaining attempt) :
    KeepsTo (.cloud :: stages) remaining attempt :=
  Program.KeepsTo.skip rest

theorem bind
    {attempt : Attempt Failure First}
    {next : First → Attempt Failure Second}
    (first : KeepsTo stages middle attempt)
    (rest : ∀ value, KeepsTo middle remaining (next value)) :
    KeepsTo stages remaining (attempt >>= next) := by
  rw [KeepsTo, ExceptT.run_bind]
  apply Program.KeepsTo.bind first
  · rintro value _ rfl
    exact rest value
  · intro failure left
    exact .failed left failure

theorem mapFailure
    {attempt : Attempt Failure Value}
    (first : KeepsTo stages remaining attempt)
    (wrap : Failure → Other) :
    KeepsTo stages remaining (attempt.mapFailure wrap) := by
  apply Program.KeepsTo.bind first
  · intro value left isLeft
    exact .succeeded isLeft value
  · intro failure left
    exact .failed left (wrap failure)

theorem reporting
    {attempt : Attempt Failure Value}
    (first : KeepsTo stages remaining attempt)
    (event : Except Failure Value → Option Event) :
    KeepsTo stages remaining (attempt.reporting event) := by
  apply Program.KeepsTo.bind first
  · intro value left isLeft
    cases event (.ok value) with
    | some event => exact .silent rfl fun _ => .succeeded isLeft value
    | none => exact .succeeded isLeft value
  · intro failure left
    cases event (.error failure) with
    | some event => exact .silent rfl fun _ => .failed left failure
    | none => exact .failed left failure

/-! ### Single requests -/

theorem of_mapError
    {Reason : Type}
    (wrap : Reason → Failure)
    (reply : Except Reason Value) :
    Program.KeepsTo (Exactly stages) stages (.done (reply.mapError wrap)) := by
  cases reply with
  | ok value => exact .succeeded (Exactly.refl _) value
  | error reason => exact .failed stages (wrap reason)

theorem cloud
    (call : CloudCall)
    (wrap : CloudError → Failure) :
    KeepsTo (.cloud :: stages) (.cloud :: stages) (Attempt.cloud call wrap) :=
  Program.KeepsTo.cloud fun reply => of_mapError wrap reply

theorem collaborator
    (call : CollaboratorCall)
    (wrap : Cause → Failure) :
    KeepsTo (.collaborator call.point :: stages) stages (Attempt.collaborator call wrap) :=
  Program.KeepsTo.collaborator fun reply => of_mapError wrap reply

theorem checkpoint
    (operation : String)
    (wrap : CloudError → Failure) :
    KeepsTo stages stages (Attempt.checkpoint operation wrap) :=
  .silent rfl fun reply => of_mapError wrap reply

theorem annotationsOf
    (key : IngressKey)
    (wrap : Cause → Failure) :
    KeepsTo stages stages (Attempt.annotationsOf key wrap) :=
  .silent rfl fun reply => of_mapError wrap reply

theorem configuration :
    KeepsTo stages stages (Attempt.configuration : Attempt Failure Configuration) :=
  .silent rfl fun reply => .succeeded (Exactly.refl _) reply

theorem report
    (event : Event) :
    KeepsTo stages stages (Attempt.report event : Attempt Failure Unit) :=
  .silent rfl fun _ => .succeeded (Exactly.refl _) ()

end KeepsTo

/-- An attempt that asks for effects in the cloud alone. -/
def OnlyCloud
    (attempt : Attempt Failure Value) : Prop :=
  ∀ stages, KeepsTo (.cloud :: stages) (.cloud :: stages) attempt

end Attempt

end IngressConvergence
