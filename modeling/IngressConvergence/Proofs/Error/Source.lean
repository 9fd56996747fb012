import IngressConvergence.ControllerError

/-!
# Following an error to its origin

An error names at most one source, which may name a source in turn.  `Cause.LeadsTo` follows sources
for any number of steps.  Every step keeps whether the error is a cancellation, so that an error is
one exactly if an error is one that it leads to.
-/

namespace IngressConvergence

/-- The source that an error of the controller names, if it names one. -/
def ControllerError.source? : ControllerError → Option Cause
  | .invalidIngress _ => none
  | .store _ source => some source
  | .configBuild _ source => some (.controller source)
  | .policyViolation _ _ => none
  | .lookup _ source => some (.cloud source)
  | .provision _ _ source => some (.cloud source)
  | .recreation _ _ source => some (.cloud source)
  | .attributeUpdate _ _ source => some (.cloud source)
  | .webAcl _ _ source => some (.cloud source)
  | .invalidReference _ _ => none
  | .referenceLookup _ source => some (.cloud source)
  | .unresolvedReference _ _ _ => none
  | .dependentResource _ source => some source
  | .teardown _ source => some source

namespace Cause

/-- The source that a cause names, if it names one; what is under a remark is its source. -/
def source? : Cause → Option Cause
  | .text _ => none
  | .cloud _ => none
  | .controller error => error.source?
  | .remark _ cause => some cause

/-- Following sources leads from one cause to another. -/
inductive LeadsTo : Cause → Cause → Prop where
  | here
      (cause : Cause) :
      LeadsTo cause cause
  | source
      {cause source origin : Cause}
      (names : cause.source? = some source)
      (leads : LeadsTo source origin) :
      LeadsTo cause origin

/-- A cause is a cancellation exactly if the source that it names is one. -/
theorem isCancellation_of_source?
    {cause source : Cause}
    (names : cause.source? = some source) :
    cause.isCancellation = source.isCancellation := by
  cases cause with
  | text message => cases names
  | cloud error => cases names
  | remark message inner =>
      cases names
      rfl
  | controller error =>
      cases error <;> cases names <;> rfl

theorem LeadsTo.isCancellation_eq
    {cause origin : Cause}
    (leads : LeadsTo cause origin) :
    cause.isCancellation = origin.isCancellation := by
  induction leads with
  | here => rfl
  | source names leads ih => exact (isCancellation_of_source? names).trans ih

/-- An error of the controller that names no source is no cancellation. -/
theorem isCancellation_eq_false_of_source?
    {error : ControllerError}
    (names : error.source? = none) :
    error.isCancellation = false := by
  cases error <;> first | rfl | cases names

theorem sizeOf_source?_lt
    {cause source : Cause}
    (names : cause.source? = some source) :
    sizeOf source < sizeOf cause := by
  cases cause with
  | text message => cases names
  | cloud error => cases names
  | remark message inner =>
      cases names
      simp only [remark.sizeOf_spec]
      omega
  | controller error =>
      cases error <;> cases names <;> simp <;> omega

/-- A cancellation goes back to a failure of the cloud that is one. -/
theorem exists_of_isCancellation
    (cause : Cause)
    (cancelled : cause.isCancellation = true) :
    ∃ found : CloudError, cause.LeadsTo (.cloud found) ∧ found.isCancellation = true := by
  cases names : cause.source? with
  | some source =>
      rw [isCancellation_of_source? names] at cancelled
      rcases exists_of_isCancellation source cancelled with ⟨found, leads, isOne⟩
      exact ⟨found, .source names leads, isOne⟩
  | none =>
      cases cause with
      | text message => cases cancelled
      | cloud error => exact ⟨error, .here _, cancelled⟩
      | remark message inner => cases names
      | controller error =>
          cases cancelled.symm.trans (isCancellation_eq_false_of_source? names)
termination_by sizeOf cause
decreasing_by exact sizeOf_source?_lt names

/-- A cause is a cancellation exactly if it goes back to a failure of the cloud that is one. -/
theorem isCancellation_iff
    (cause : Cause) :
    cause.isCancellation = true ↔
      ∃ found : CloudError, cause.LeadsTo (.cloud found) ∧ found.isCancellation = true := by
  constructor
  · exact exists_of_isCancellation cause
  · rintro ⟨found, leads, isOne⟩
    exact leads.isCancellation_eq.trans isOne

end Cause

/-! ## Errors that wrap a cause -/

namespace ControllerError

/-- An error names a cause as its source, directly or through other errors of the controller. -/
inductive Wraps : ControllerError → Cause → Prop where
  | directly
      {error : ControllerError}
      {cause : Cause}
      (names : error.source? = some cause) :
      Wraps error cause
  | through
      {error inner : ControllerError}
      {cause : Cause}
      (names : error.source? = some (.controller inner))
      (wraps : Wraps inner cause) :
      Wraps error cause

variable {error : ControllerError} {cause : Cause}

theorem Wraps.leadsTo
    (wraps : error.Wraps cause) :
    (Cause.controller error).LeadsTo cause := by
  induction wraps with
  | directly names => exact .source names (.here _)
  | through names wraps ih => exact .source names ih

/-- The message of an error ends with the message of its source. -/
theorem exists_message_of_source?
    (names : error.source? = some cause) :
    ∃ front, error.message = front ++ cause.message := by
  cases error <;> cases names <;> exact ⟨_, rfl⟩

theorem Wraps.exists_message
    (wraps : error.Wraps cause) :
    ∃ front, error.message = front ++ cause.message := by
  induction wraps with
  | directly names => exact exists_message_of_source? names
  | @through error inner cause names wraps ih =>
      rcases exists_message_of_source? names with ⟨front, whole⟩
      rcases ih with ⟨middle, rest⟩
      have passedOn : (Cause.controller inner).message = inner.message := rfl
      exact ⟨front ++ middle, by rw [whole, passedOn, rest, String.append_assoc]⟩

end ControllerError

end IngressConvergence
