import IngressConvergence.Cloud.Tables
import IngressConvergence.ControllerError
import Mathlib.Data.List.Forall2

/-!
# Errors that differ in handles only

Two runs that differ in the handles that the cloud gave out fail with errors that differ in these
handles and in nothing else.  An error consists of its outline, which leaves blank what may differ,
and of its mentions, the handles and the failures of the cloud that belong in the blanks.  Errors are
alike if their outlines are the same and their mentions correspond one by one.
-/

namespace IngressConvergence

/-! ## Mentions -/

/-- Failures of the cloud each tell that a load balancer does not exist, or neither does and they are
the same. -/
inductive CloudError.Alike
    (handles : String → String → Prop) :
    CloudError → CloudError → Prop where
  | same
      {error : CloudError}
      (other : ∀ arn, error ≠ CloudTables.noLoadBalancer arn) :
      Alike handles error error
  | noLoadBalancer
      {arn arn' : String}
      (correspond : handles arn arn') :
      Alike handles (CloudTables.noLoadBalancer arn) (CloudTables.noLoadBalancer arn')

/-- What an error mentions that depends on handles. -/
inductive Mention where
  | handle (arn : String)
  | failure (error : CloudError)

/-- Mentions of handles that correspond, or of failures that are alike. -/
inductive Mention.Alike
    (handles : String → String → Prop) :
    Mention → Mention → Prop where
  | handle
      {arn arn' : String}
      (correspond : handles arn arn') :
      Alike handles (.handle arn) (.handle arn')
  | failure
      {error error' : CloudError}
      (alike : error.Alike handles error') :
      Alike handles (.failure error) (.failure error')

/-! ## Outlines -/

/-- What an outline has in place of a failure of the cloud. -/
def CloudError.blank : CloudError := .notFound ""

mutual

/-- An error without the handles and the failures of the cloud that it mentions. -/
def ControllerError.outline : ControllerError → ControllerError
  | .invalidIngress reason => .invalidIngress reason
  | .store key source => .store key source.outline
  | .configBuild key source => .configBuild key source.outline
  | .policyViolation key reason => .policyViolation key reason
  | .lookup name _ => .lookup name .blank
  | .provision name action _ => .provision name action .blank
  | .recreation name _ _ => .recreation name "" .blank
  | .attributeUpdate _ patched _ => .attributeUpdate "" patched .blank
  | .webAcl _ action _ => .webAcl "" action .blank
  | .invalidReference _ webAclId => .invalidReference "" webAclId
  | .referenceLookup kind _ => .referenceLookup kind .blank
  | .unresolvedReference kind requested resolved => .unresolvedReference kind requested resolved
  | .dependentResource step source => .dependentResource step source.outline
  | .teardown step source => .teardown step source.outline

/-- A cause without the handles and the failures of the cloud that it mentions. -/
def Cause.outline : Cause → Cause
  | .text message => .text message
  | .cloud _ => .cloud .blank
  | .controller error => .controller error.outline
  | .remark message cause => .remark message cause.outline

end

mutual

/-- The handles and the failures of the cloud that an error mentions, in their order. -/
def ControllerError.mentions : ControllerError → List Mention
  | .invalidIngress _ => []
  | .store _ source => source.mentions
  | .configBuild _ source => source.mentions
  | .policyViolation _ _ => []
  | .lookup _ source => [.failure source]
  | .provision _ _ source => [.failure source]
  | .recreation _ previousArn source => [.handle previousArn, .failure source]
  | .attributeUpdate arn _ source => [.handle arn, .failure source]
  | .webAcl arn _ source => [.handle arn, .failure source]
  | .invalidReference arn _ => [.handle arn]
  | .referenceLookup _ source => [.failure source]
  | .unresolvedReference _ _ _ => []
  | .dependentResource _ source => source.mentions
  | .teardown _ source => source.mentions

/-- The handles and the failures of the cloud that a cause mentions, in their order. -/
def Cause.mentions : Cause → List Mention
  | .text _ => []
  | .cloud error => [.failure error]
  | .controller error => error.mentions
  | .remark _ cause => cause.mentions

end

/-! ## Errors that are alike -/

/-- Errors that are the same but for handles, which correspond. -/
structure ControllerError.Alike
    (handles : String → String → Prop)
    (error error' : ControllerError) : Prop where
  outline : error.outline = error'.outline
  mentions : List.Forall₂ (Mention.Alike handles) error.mentions error'.mentions

/-- Causes that are the same but for handles, which correspond. -/
structure Cause.Alike
    (handles : String → String → Prop)
    (cause cause' : Cause) : Prop where
  outline : cause.outline = cause'.outline
  mentions : List.Forall₂ (Mention.Alike handles) cause.mentions cause'.mentions

section Order

variable {handles handles' : String → String → Prop}

theorem CloudError.alike_refl
    (every : ∀ arn, handles arn arn)
    (error : CloudError) :
    error.Alike handles error := by
  by_cases missing : ∃ arn, error = CloudTables.noLoadBalancer arn
  · rcases missing with ⟨arn, rfl⟩
    exact .noLoadBalancer (every arn)
  · exact .same (not_exists.mp missing)

theorem CloudError.Alike.mono
    (included : ∀ arn arn', handles arn arn' → handles' arn arn')
    {error error' : CloudError}
    (alike : error.Alike handles error') :
    error.Alike handles' error' := by
  cases alike with
  | same other => exact .same other
  | noLoadBalancer correspond => exact .noLoadBalancer (included _ _ correspond)

theorem Mention.alike_refl
    (every : ∀ arn, handles arn arn)
    (mention : Mention) :
    mention.Alike handles mention := by
  cases mention with
  | handle arn => exact .handle (every arn)
  | failure error => exact .failure (error.alike_refl every)

theorem Cause.alike_refl
    (every : ∀ arn, handles arn arn)
    (cause : Cause) :
    cause.Alike handles cause where
  outline := rfl
  mentions := List.forall₂_same.mpr fun mention _ => mention.alike_refl every

/-- An error that mentions nothing is alike to itself. -/
theorem ControllerError.alike_self
    {error : ControllerError}
    (nothing : error.mentions = []) :
    error.Alike handles error where
  outline := rfl
  mentions := nothing ▸ .nil

theorem Cause.alike_controller
    {error error' : ControllerError}
    (alike : error.Alike handles error') :
    (Cause.controller error).Alike handles (.controller error') where
  outline := congrArg Cause.controller alike.outline
  mentions := alike.mentions

theorem Cause.alike_cloud
    {error error' : CloudError}
    (alike : error.Alike handles error') :
    (Cause.cloud error).Alike handles (.cloud error') where
  outline := rfl
  mentions := .cons (.failure alike) .nil

end Order

/-! ## Errors that are alike to the same error -/

section Common

variable {handles handles' both : String → String → Prop}

theorem CloudTables.noLoadBalancer_injective :
    Function.Injective CloudTables.noLoadBalancer := by
  intro arn arn' same
  simpa [noLoadBalancer, toString, String.append_assoc] using same

/-- Failures that are alike to a common one are alike. -/
theorem CloudError.Alike.comp
    (join : ∀ arn arn' common, handles arn common → handles' arn' common → both arn arn')
    {error error' common : CloudError}
    (alike : error.Alike handles common)
    (alike' : error'.Alike handles' common) :
    error.Alike both error' := by
  cases alike with
  | same other =>
      cases alike' with
      | same otherToo => exact .same other
      | noLoadBalancer correspond => exact absurd rfl (other _)
  | noLoadBalancer correspond =>
      generalize missing : CloudTables.noLoadBalancer _ = common at alike'
      cases alike' with
      | same other => exact absurd missing.symm (other _)
      | noLoadBalancer correspond' =>
          cases CloudTables.noLoadBalancer_injective missing
          exact .noLoadBalancer (join _ _ _ correspond correspond')

theorem Mention.Alike.comp
    (join : ∀ arn arn' common, handles arn common → handles' arn' common → both arn arn')
    {mention mention' common : Mention}
    (alike : mention.Alike handles common)
    (alike' : mention'.Alike handles' common) :
    mention.Alike both mention' := by
  cases alike with
  | handle correspond =>
      cases alike' with
      | handle correspond' => exact .handle (join _ _ _ correspond correspond')
  | failure alike =>
      cases alike' with
      | failure alike' => exact .failure (alike.comp join alike')

/-- Lists that are related to a common one are related item by item. -/
theorem forall₂_of_common
    {First Second Third : Type}
    {first : First → Third → Prop}
    {second : Second → Third → Prop}
    {both : First → Second → Prop}
    (join : ∀ one other common, first one common → second other common → both one other)
    {ones : List First}
    {others : List Second}
    {commons : List Third}
    (alike : List.Forall₂ first ones commons)
    (alike' : List.Forall₂ second others commons) :
    List.Forall₂ both ones others := by
  induction alike generalizing others with
  | nil =>
      cases alike'
      exact .nil
  | cons head tail ih =>
      cases alike' with
      | cons head' tail' => exact .cons (join _ _ _ head head') (ih tail')

/-- Errors that are alike to one error are alike. -/
theorem ControllerError.Alike.comp
    (join : ∀ arn arn' common, handles arn common → handles' arn' common → both arn arn')
    {error error' common : ControllerError}
    (alike : error.Alike handles common)
    (alike' : error'.Alike handles' common) :
    error.Alike both error' where
  outline := alike.outline.trans alike'.outline.symm
  mentions :=
    forall₂_of_common (fun _ _ _ first second => first.comp join second) alike.mentions
      alike'.mentions

end Common

end IngressConvergence
