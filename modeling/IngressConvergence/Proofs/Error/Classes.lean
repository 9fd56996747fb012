import IngressConvergence.Proofs.Error.Source

/-!
# Classes of errors through any nesting

Errors are told apart in two ways.  A cancellation is searched for along the sources, until a link is a
cancelled call or names no source, and so it is seen through everything that wraps it.  A failure of the
firewall is looked for under the failures of steps and the remarks on them, and nowhere else: whatever
else wraps it hides it.  What an error is made of does not matter, as every error names at most one
source and is larger than it.  The main statement is `ControllerError.toldApart`.
-/

namespace IngressConvergence

namespace Cause

variable {cause source : Cause}

/-! ## The links of an error -/

/-- What holds of every cause that names no source, and of every cause whose source it holds of, holds of
all causes. -/
theorem source_induction
    {motive : Cause → Prop}
    (innermost : ∀ cause, cause.source? = none → motive cause)
    (link : ∀ cause source, cause.source? = some source → motive source → motive cause)
    (cause : Cause) :
    motive cause := by
  cases names : cause.source? with
  | none => exact innermost cause names
  | some source => exact link cause source names (source_induction innermost link source)
termination_by sizeOf cause
decreasing_by exact sizeOf_source?_lt names

/-- A cause and its sources in turn, from the outside to the inside. -/
def trail (cause : Cause) : List Cause :=
  match names : cause.source? with
  | some source =>
      have : sizeOf source < sizeOf cause := sizeOf_source?_lt names
      cause :: source.trail
  | none => [cause]
termination_by sizeOf cause

theorem trail_of_source?
    (names : cause.source? = some source) :
    cause.trail = cause :: source.trail := by
  rw [trail]
  split
  next other namesOther =>
    cases names.symm.trans namesOther
    rfl
  next namesNone => cases names.symm.trans namesNone

theorem trail_of_innermost
    (names : cause.source? = none) :
    cause.trail = [cause] := by
  rw [trail]
  split
  next other namesOther => cases names.symm.trans namesOther
  next => rfl

theorem links_of_source?
    (names : cause.source? = some source) :
    cause.links = cause.message :: source.links := by
  cases cause with
  | text message => cases names
  | cloud error => cases names
  | remark message inner =>
      cases names
      rfl
  | controller error =>
      cases error <;> cases names <;> rfl

theorem links_of_innermost
    (names : cause.source? = none) :
    cause.links = [cause.message] := by
  cases cause with
  | text message => rfl
  | cloud error => rfl
  | remark message inner => cases names
  | controller error =>
      cases error <;> first | rfl | cases names

/-- The messages of an error are those of its links. -/
theorem map_message_trail
    (cause : Cause) :
    cause.trail.map message = cause.links := by
  induction cause using source_induction with
  | innermost cause names => rw [trail_of_innermost names, links_of_innermost names]; rfl
  | link cause source names ih =>
      rw [trail_of_source? names, links_of_source? names, List.map_cons, ih]

/-! ## Cancellations -/

/-- Whether a link is by itself a cancelled call, whatever its source is. -/
def isCancelledCall : Cause → Bool
  | .cloud error => error.isCancellation
  | _ => false

theorem isCancellation_of_innermost
    (names : cause.source? = none) :
    cause.isCancellation = cause.isCancelledCall := by
  cases cause with
  | text message => rfl
  | cloud error => rfl
  | remark message inner => cases names
  | controller error => exact isCancellation_eq_false_of_source? names

theorem source?_of_isCancelledCall
    (isOne : cause.isCancelledCall = true) :
    cause.source? = none := by
  cases cause with
  | cloud error => rfl
  | _ => cases isOne

/-- The search for a cancellation from a link on, if there is one left, and its answer. -/
inductive Search : Option Cause → Bool → Prop where
  | exhausted : Search none false
  | found
      {link : Cause}
      (isOne : link.isCancelledCall = true) :
      Search (some link) true
  | next
      {link : Cause}
      {answer : Bool}
      (isNone : link.isCancelledCall = false)
      (rest : Search link.source? answer) :
      Search (some link) answer

/-- A search comes to what the classification by cases comes to. -/
theorem Search.eq_isCancellation
    {links : Option Cause}
    {answer : Bool}
    (search : Search links answer) :
    answer = links.any isCancellation := by
  induction search with
  | exhausted => rfl
  | @found link isOne =>
      have same := isCancellation_of_innermost (source?_of_isCancelledCall isOne)
      exact (same.trans isOne).symm
  | @next link answer isNone rest ih =>
      cases names : link.source? with
      | some source =>
          rw [names] at ih
          exact ih.trans (isCancellation_of_source? names).symm
      | none =>
          rw [names] at ih
          exact ih.trans ((isCancellation_of_innermost names).trans isNone).symm

/-- The classification by cases is what a search through the causes comes to. -/
theorem search_isCancellation
    (cause : Cause) :
    Search (some cause) cause.isCancellation := by
  induction cause using source_induction with
  | innermost cause names =>
      rw [isCancellation_of_innermost names]
      cases isOne : cause.isCancelledCall with
      | true => exact .found isOne
      | false => exact .next isOne (names ▸ .exhausted)
  | link cause source names ih =>
      -- A cancelled call names no source, so the search goes on from every link that does.
      have isNone : cause.isCancelledCall = false := by
        refine Bool.eq_false_iff.mpr fun isOne => ?_
        cases names.symm.trans (source?_of_isCancelledCall isOne)
      rw [isCancellation_of_source? names]
      exact .next isNone (names ▸ ih)

/-- The search for a cancellation comes to an end, with one answer only. -/
theorem search_iff
    (cause : Cause)
    (answer : Bool) :
    Search (some cause) answer ↔ answer = cause.isCancellation := by
  constructor
  · exact Search.eq_isCancellation
  · rintro rfl
    exact cause.search_isCancellation

theorem isCancelledCall_iff
    (cause : Cause) :
    cause.isCancelledCall = true ↔
      ∃ operation, cause = .cloud (.cancelled operation) ∨
        cause = .cloud (.deadlineExceeded operation) := by
  cases cause with
  | cloud error =>
      cases error <;> simp [isCancelledCall, CloudError.isCancellation]
  | _ => simp [isCancelledCall]

/-- Whether a cause is a cancellation is decided by the innermost of its links. -/
theorem isCancellation_eq_getLast?_trail
    (cause : Cause) :
    cause.isCancellation = cause.trail.getLast?.any isCancelledCall := by
  induction cause using source_induction with
  | innermost cause names =>
      rw [trail_of_innermost names, isCancellation_of_innermost names]
      rfl
  | link cause source names ih =>
      have notEmpty : source.trail ≠ [] := by
        rw [trail]
        split <;> exact List.cons_ne_nil _ _
      rw [isCancellation_of_source? names, ih, trail_of_source? names,
        List.getLast?_cons_of_ne_nil notEmpty]

theorem isCancellation_remarked
    (cause : Cause)
    (remarks : List String) :
    (cause.remarked remarks).isCancellation = cause.isCancellation := by
  induction remarks generalizing cause with
  | nil => rfl
  | cons remark rest ih => exact ih (.remark remark cause)

theorem isWebAclError_remarked
    (cause : Cause)
    (remarks : List String) :
    (cause.remarked remarks).isWebAclError = cause.isWebAclError := by
  induction remarks generalizing cause with
  | nil => rfl
  | cons remark rest ih => exact ih (.remark remark cause)

end Cause

namespace ControllerError

/-! ## Layers around an error -/

/-- What can be put around an error: another error that holds it as its source, most of them with
remarks on it. -/
inductive Layer where
  | store (key : String) (remarks : List String)
  | configBuild (key : String)
  | dependentResource (step : DependentStep) (remarks : List String)
  | teardown (step : TeardownStep) (remarks : List String)

namespace Layer

/-- The error that a layer makes of the one inside it. -/
def around : Layer → ControllerError → ControllerError
  | .store key remarks, error => .store key ((Cause.controller error).remarked remarks)
  | .configBuild key, error => .configBuild key error
  | .dependentResource step remarks, error =>
      .dependentResource step ((Cause.controller error).remarked remarks)
  | .teardown step remarks, error => .teardown step ((Cause.controller error).remarked remarks)

/-- Whether a layer is the failure of a step. -/
def isStep : Layer → Bool
  | .dependentResource _ _ => true
  | _ => false

theorem isCancellation_around
    (layer : Layer)
    (error : ControllerError) :
    (layer.around error).isCancellation = error.isCancellation := by
  cases layer with
  | store key remarks => exact Cause.isCancellation_remarked _ remarks
  | configBuild key => rfl
  | dependentResource step remarks => exact Cause.isCancellation_remarked _ remarks
  | teardown step remarks => exact Cause.isCancellation_remarked _ remarks

theorem isWebAclError_around
    (layer : Layer)
    (error : ControllerError) :
    (layer.around error).isWebAclError = (layer.isStep && error.isWebAclError) := by
  cases layer with
  | dependentResource step remarks => exact Cause.isWebAclError_remarked _ remarks
  | _ => rfl

end Layer

/-- An error under layers, the first of them outermost. -/
def under
    (error : ControllerError)
    (layers : List Layer) : ControllerError :=
  layers.foldr Layer.around error

theorem isCancellation_under
    (error : ControllerError)
    (layers : List Layer) :
    (error.under layers).isCancellation = error.isCancellation := by
  induction layers with
  | nil => rfl
  | cons layer rest ih => exact (layer.isCancellation_around _).trans ih

theorem isWebAclError_under
    (error : ControllerError)
    (layers : List Layer) :
    (error.under layers).isWebAclError = (layers.all Layer.isStep && error.isWebAclError) := by
  induction layers with
  | nil => rfl
  | cons layer rest ih =>
      have outermost : (error.under (layer :: rest)).isWebAclError =
          (layer.isStep && (error.under rest).isWebAclError) :=
        layer.isWebAclError_around _
      rw [outermost, ih, List.all_cons, Bool.and_assoc]

/-! ## Failures of the firewall -/

/-- An error is by itself a failure of the firewall. -/
inductive IsWebAclFailure : ControllerError → Prop where
  | webAcl
      (arn : String)
      (action : WebAclAction)
      (source : CloudError) :
      IsWebAclFailure (.webAcl arn action source)
  | invalidReference
      (arn webAclId : String) :
      IsWebAclFailure (.invalidReference arn webAclId)

theorem IsWebAclFailure.isWebAclError
    {error : ControllerError}
    (isFailure : error.IsWebAclFailure) :
    error.isWebAclError = true := by
  cases isFailure <;> rfl

end ControllerError

open ControllerError (Layer)

mutual

/-- A failure of the firewall is one by itself, under failures of steps. -/
theorem ControllerError.exists_layers
    (error : ControllerError)
    (isOne : error.isWebAclError = true) :
    ∃ (layers : List Layer) (core : ControllerError),
      layers.all Layer.isStep = true ∧ core.IsWebAclFailure ∧ error = core.under layers := by
  cases error with
  | webAcl arn action source => exact ⟨[], _, rfl, .webAcl arn action source, rfl⟩
  | invalidReference arn webAclId => exact ⟨[], _, rfl, .invalidReference arn webAclId, rfl⟩
  | dependentResource step source =>
      rcases source.exists_layers isOne with ⟨remarks, layers, core, allSteps, isFailure, rfl⟩
      exact ⟨Layer.dependentResource step remarks :: layers, core, allSteps, isFailure, rfl⟩
  | _ => cases isOne

/-- A cause that is a failure of the firewall is one by itself, under failures of steps and remarks. -/
theorem Cause.exists_layers
    (cause : Cause)
    (isOne : cause.isWebAclError = true) :
    ∃ (remarks : List String) (layers : List Layer) (core : ControllerError),
      layers.all Layer.isStep = true ∧ core.IsWebAclFailure ∧
        cause = (Cause.controller (core.under layers)).remarked remarks := by
  cases cause with
  | controller error =>
      rcases error.exists_layers isOne with ⟨layers, core, allSteps, isFailure, rfl⟩
      exact ⟨[], layers, core, allSteps, isFailure, rfl⟩
  | remark message inner =>
      rcases inner.exists_layers isOne with ⟨remarks, layers, core, allSteps, isFailure, rfl⟩
      refine ⟨remarks ++ [message], layers, core, allSteps, isFailure, ?_⟩
      rw [Cause.remarked, Cause.remarked, List.foldl_append]
      rfl
  | _ => cases isOne

end

namespace ControllerError

/-! ## What tells errors apart -/

/-- An error is told apart from others by what it is made of. -/
structure IsToldApart (error : ControllerError) : Prop where
  /-- The search for a cancellation along the sources comes to an end, with one answer. -/
  searched :
    ∀ answer, Cause.Search (some (.controller error)) answer ↔ answer = error.isCancellation
  /-- A cancellation is an error whose innermost link is a cancelled call or one that was too late. -/
  isCancellation_iff :
    error.isCancellation = true ↔
      ∃ operation,
        (Cause.controller error).trail.getLast? = some (.cloud (.cancelled operation)) ∨
          (Cause.controller error).trail.getLast? = some (.cloud (.deadlineExceeded operation))
  /-- Nothing that is put around an error makes it a cancellation or hides that it is one. -/
  seenThrough : ∀ layers, (error.under layers).isCancellation = error.isCancellation
  /-- A failure of the firewall is one by itself, under any failures of steps with any remarks. -/
  isWebAclError_iff :
    error.isWebAclError = true ↔
      ∃ (layers : List Layer) (core : ControllerError),
        layers.all Layer.isStep = true ∧ core.IsWebAclFailure ∧ error = core.under layers
  /-- Whatever else is put around an error hides that it is a failure of the firewall. -/
  hidden :
    ∀ layers layer, layer ∈ layers → layer.isStep = false →
      (error.under layers).isWebAclError = false
  /-- The messages that are shown are those of the links. -/
  shown : (Cause.controller error).trail.map Cause.message = error.message :: error.chain
  /-- The message of an error ends with that of its source. -/
  endsWithSource :
    ∀ source, error.source? = some source → ∃ front, error.message = front ++ source.message

theorem isToldApart
    (error : ControllerError) :
    error.IsToldApart := by
  constructor
  case searched => exact (Cause.controller error).search_iff
  case isCancellation_iff =>
    have innermost : error.isCancellation = _ :=
      (Cause.controller error).isCancellation_eq_getLast?_trail
    rw [innermost, Option.any_eq_true]
    constructor
    · rintro ⟨origin, isLast, isOne⟩
      rcases origin.isCancelledCall_iff.mp isOne with ⟨operation, rfl | rfl⟩
      · exact ⟨operation, .inl isLast⟩
      · exact ⟨operation, .inr isLast⟩
    · rintro ⟨operation, isLast | isLast⟩
      · exact ⟨_, isLast, rfl⟩
      · exact ⟨_, isLast, rfl⟩
  case seenThrough => exact error.isCancellation_under
  case isWebAclError_iff =>
    constructor
    · exact error.exists_layers
    · rintro ⟨layers, core, allSteps, isFailure, rfl⟩
      rw [isWebAclError_under, allSteps, isFailure.isWebAclError]
      rfl
  case hidden =>
    intro layers layer member isOther
    have notAll : layers.all Layer.isStep = false :=
      List.all_eq_false.mpr ⟨layer, member, by simp [isOther]⟩
    rw [isWebAclError_under, notAll, Bool.false_and]
  case shown => exact (Cause.controller error).map_message_trail
  case endsWithSource => exact fun source names => exists_message_of_source? names

/-- Errors are told apart through any nesting, and neither remarks on a cause nor an error that has it as
its source make a difference to whether the cause is a cancellation. -/
theorem toldApart
    (error : ControllerError)
    (cause : Cause)
    (remarks : List String) :
    error.IsToldApart ∧
      (cause.remarked remarks).isCancellation = cause.isCancellation ∧
      ∀ wrapping : ControllerError, wrapping.source? = some (cause.remarked remarks) →
        wrapping.isCancellation = cause.isCancellation := by
  have throughRemarks := cause.isCancellation_remarked remarks
  refine ⟨error.isToldApart, throughRemarks, fun wrapping names => ?_⟩
  have names : (Cause.controller wrapping).source? = some (cause.remarked remarks) := names
  have sameClass : wrapping.isCancellation = _ := Cause.isCancellation_of_source? names
  exact sameClass.trans throughRemarks

-- A cancelled association is seen as both under a failed step, and as a cancellation only in a removal.
example :
    let cancelled := ControllerError.webAcl "arn" .associate (.cancelled "AssociateWebAcl")
    let failedStep := cancelled.under [.dependentResource .webAcl ["remark"]]
    let failedRemoval := failedStep.under [.teardown .listeners []]
    (failedStep.isCancellation, failedStep.isWebAclError) = (true, true) ∧
      (failedRemoval.isCancellation, failedRemoval.isWebAclError) = (true, false) := by
  decide

end ControllerError

end IngressConvergence
