import IngressConvergence.Proofs.Attribution.Cycle
import IngressConvergence.Proofs.Operation
import IngressConvergence.Proofs.Reporting

/-!
# What is reported of failed cycles and removals

A cycle that fails is reported as failed, and so is a removal.  Two failures are passed over: that of a
cycle for an ingress without a name, and that of a removal whose lookup fails; these end the operation
before anything grave can be reported.  A warning is reported exactly if a load balancer was deleted and
could not be created anew.  The main statement is `Controller.tellsOutcome`.
-/

namespace IngressConvergence

/-! ## The load balancer and what is attached to it -/

/-- What a stage of a cycle reports of its failure as a warning. -/
def ControllerError.warnings : ControllerError → List Event
  | .recreation name _ source => [.recreationFailed name source]
  | _ => []

/-- What is owed to a failure within a cycle: its warnings. -/
def ControllerError.IsWarnedOf
    (error : ControllerError)
    (graves : List Event) : Prop :=
  graves = error.warnings

namespace DesiredState

theorem isQuiet_resolveSecurityGroups
    (items : List String) :
    (resolveSecurityGroups items).IsQuiet := by
  rw [resolveSecurityGroups_eq]
  refine .ite (.ofExcept fun _ _ => rfl) ?_
  exact .bind (.cloud fun _ => rfl) fun groups => .ofExcept fun _ _ => rfl

theorem isQuiet_resolveSubnets
    (items : List String)
    (scheme : Scheme) :
    (resolveSubnets items scheme).IsQuiet := by
  rw [resolveSubnets, resolveAnnotatedSubnets_eq]
  refine .ite (.bind (.cloud fun _ => rfl) fun subnets => .pure _) ?_
  refine .bind ?_ fun subnets => .pure _
  refine .ite (.ofExcept fun _ _ => rfl) ?_
  exact .bind (.cloud fun _ => rfl) fun ids => .ofExcept fun _ _ => rfl

theorem accounts_build
    (policy : NamingPolicy)
    (key : IngressKey)
    (annotations : IngressAnnotations) :
    (build policy key annotations).Accounts ControllerError.IsWarnedOf := by
  rw [build]
  exact .bind (.mapFailure (isQuiet_resolveSubnets _ _)) fun subnets => .pure _

end DesiredState

namespace Convergence

theorem accounts_createInstance
    (desired : DesiredState) :
    (createInstance desired).Accounts ControllerError.IsWarnedOf := by
  rw [createInstance]
  refine .bind (.report rfl) fun _ => .bind (.cloud fun _ => rfl) fun created => ?_
  exact .bind (.report rfl) fun _ => .pure _

/-- A load balancer that could not be created anew is warned of. -/
theorem accounts_recreateInstance
    (current : LoadBalancer)
    (desired : DesiredState) :
    (recreateInstance current desired).Accounts ControllerError.IsWarnedOf := by
  rw [recreateInstance]
  refine .bind (.report rfl) fun _ => .bind (.cloud fun _ => rfl) fun _ => ?_
  refine .bind (.report rfl) fun _ => .mapFailure ?_
  exact .reporting (.cloud fun _ => rfl) fun created => rfl

theorem accounts_patchIpAddressType
    (current : LoadBalancer)
    (desired : DesiredState) :
    (patchIpAddressType current desired).Accounts ControllerError.IsWarnedOf := by
  rw [patchIpAddressType]
  exact .ite (.bind (.report rfl) fun _ => .cloud fun _ => rfl) (.pure _)

theorem accounts_patchSubnets
    (current : LoadBalancer)
    (desired : DesiredState) :
    (patchSubnets current desired).Accounts ControllerError.IsWarnedOf := by
  rw [patchSubnets]
  exact .ite (.bind (.report rfl) fun _ => .cloud fun _ => rfl) (.pure _)

theorem accounts_ensureInstance
    (desired : DesiredState) :
    (ensureInstance desired).Accounts ControllerError.IsWarnedOf := by
  rw [ensureInstance]
  refine .bind (.cloud fun _ => rfl) ?_
  rintro (_ | current)
  · exact accounts_createInstance desired
  · refine .ite (accounts_recreateInstance current desired) ?_
    refine .bind (accounts_patchIpAddressType current desired) fun _ => ?_
    exact .bind (accounts_patchSubnets current desired) fun _ => .pure _

theorem isQuiet_convergeAttributes
    (arn : String)
    (desired : Table String) :
    (convergeAttributes arn desired).IsQuiet := by
  rw [convergeAttributes]
  refine .ite (.bind (.cloud fun _ => rfl) fun current => ?_) (.pure _)
  exact .ite (.bind (.report rfl) fun _ => .cloud fun _ => rfl) (.pure _)

theorem isQuiet_convergeWebAcl
    (arn : String)
    (desired : Option String) :
    (convergeWebAcl arn desired).IsQuiet := by
  have carryOut (plan : WebAclPlan) : (carryOut arn plan).IsQuiet := by
    cases plan with
    | keep => exact .pure _
    | associate webAclId => exact .bind (.report rfl) fun _ => .cloud fun _ => rfl
    | disassociate => exact .bind (.report rfl) fun _ => .cloud fun _ => rfl
  rw [convergeWebAcl]
  refine .bind (.cloud fun _ => rfl) fun current => ?_
  cases desired with
  | none => exact carryOut _
  | some webAclId =>
      refine .bind ?_ fun _ => carryOut _
      rw [requireWebAcl]
      exact .bind (.cloud fun _ => rfl) fun known => .ite (.throw rfl) (.pure _)

end Convergence

/-! ## Cycles -/

namespace Controller

variable {Failure Value : Type}

/-- The failure of a step is not warned of. -/
theorem accounts_takeStep
    (step : DependentStep)
    {toCause : Failure → Cause}
    {attempt : Attempt Failure Value}
    (quiet : attempt.IsQuiet) :
    (takeStep step toCause attempt).Accounts ControllerError.IsWarnedOf := by
  rw [takeStep]
  exact .bind (.checkpoint fun _ => rfl) fun _ => .mapFailure quiet

theorem accounts_takeStep_collaborator
    (step : DependentStep)
    (call : CollaboratorCall) :
    (takeStep step id (Attempt.collaborator call id)).Accounts ControllerError.IsWarnedOf :=
  accounts_takeStep step (.collaborator fun _ => rfl)

theorem isQuiet_attributesStep
    (controller : Controller)
    (arn : String)
    (desired : Table String) :
    (controller.attributesStep arn desired).IsQuiet := by
  rw [attributesStep]
  split
  · exact Convergence.isQuiet_convergeAttributes arn desired
  · exact .collaborator fun _ => rfl

theorem isQuiet_securityGroupsStep
    (key : IngressKey)
    (annotations : LoadBalancerAnnotations)
    (balancer : LoadBalancer)
    (targetGroups : TargetGroupSet) :
    (securityGroupsStep key annotations balancer targetGroups).IsQuiet := by
  rw [securityGroupsStep]
  refine .bind (.mapFailure ?_) fun groups => .collaborator fun _ => rfl
  exact DesiredState.isQuiet_resolveSecurityGroups _

/-- The steps behind the load balancer report nothing grave but what is owed to their failure. -/
theorem accounts_convergeDependents
    (controller : Controller)
    (key : IngressKey)
    (ingress : Ingress)
    (annotations : LoadBalancerAnnotations)
    (balancer : LoadBalancer) :
    (controller.convergeDependents key ingress annotations balancer).Accounts
      ControllerError.IsWarnedOf := by
  rw [convergeDependents]
  refine .bind ?_ fun _ => .bind ?_ fun _ => .bind ?_ fun targetGroups =>
    .bind ?_ fun _ => .bind ?_ fun _ => ?_
  · exact accounts_takeStep _ (controller.isQuiet_attributesStep _ _)
  · exact accounts_takeStep _ (Convergence.isQuiet_convergeWebAcl _ _)
  · exact accounts_takeStep_collaborator _ _
  · exact accounts_takeStep_collaborator _ _
  · exact accounts_takeStep_collaborator _ _
  · exact accounts_takeStep _ (isQuiet_securityGroupsStep _ _ _ _)

theorem accounts_requireAllowed
    (key : IngressKey)
    (desired : DesiredState) :
    (requireAllowed key desired).Accounts ControllerError.IsWarnedOf := by
  rw [requireAllowed]
  refine .bind .configuration fun configuration => .ofExcept fun error refuses => ?_
  rw [DesiredState.validate] at refuses
  split at refuses <;> cases refuses
  rfl

theorem accounts_converge
    (controller : Controller)
    (key : IngressKey)
    (ingress : Ingress) :
    (controller.converge key ingress).Accounts ControllerError.IsWarnedOf := by
  rw [converge]
  refine .bind (.annotationsOf fun _ => rfl) fun annotations => ?_
  refine .bind (DesiredState.accounts_build _ _ _) fun desired => ?_
  refine .bind (accounts_requireAllowed _ _) fun _ => ?_
  refine .bind (Convergence.accounts_ensureInstance _) fun balancer => ?_
  exact .bind (controller.accounts_convergeDependents _ _ _ _) fun _ => .pure _

/-! ## Operations -/

/-- What is grave among the reports of an operation that fails. -/
inductive IsReported (controller : Controller) :
    Operation → ControllerError → List Event → Prop where
  /-- A cycle reports that it failed, after the warning there may be. -/
  | cycle
      {ingress : Ingress}
      {key : IngressKey}
      (named : IngressKey.ofIngress? ingress = some key)
      (error : ControllerError) :
      IsReported controller (.reconcile ingress) error (error.warnings ++ [.cycleFailed key error])
  /-- A removal reports that it failed in one of its steps. -/
  | removal
      (key : IngressKey)
      (step : TeardownStep)
      (cause : Cause) :
      IsReported controller (.delete key) (.teardown step cause)
        [.deletionFailed (controller.naming.loadBalancerName key) key (.teardown step cause)]
  /-- Nothing is reported of a cycle for an ingress without a name. -/
  | nameless
      {ingress : Ingress}
      (nameless : IngressKey.ofIngress? ingress = none) :
      IsReported controller (.reconcile ingress) (.invalidIngress "ingress has no name") []
  /-- Nothing is reported of a removal whose lookup fails. -/
  | lookup
      (key : IngressKey)
      (name : String)
      (source : CloudError) :
      IsReported controller (.delete key) (.lookup name source) []

/-- A cycle reports its own failure, unless its ingress has no name. -/
theorem accounts_reconcile
    (controller : Controller)
    (ingress : Ingress) :
    (controller.reconcile ingress).Accounts (controller.IsReported (.reconcile ingress)) := by
  rw [reconcile]
  cases named : IngressKey.ofIngress? ingress with
  | none => exact .throw (.nameless named)
  | some key =>
      have told (error : ControllerError) (graves : List Event) (isWarned : error.IsWarnedOf graves) :
          controller.IsReported (.reconcile ingress) error (graves ++ [.cycleFailed key error]) := by
        rw [isWarned]
        exact .cycle named error
      exact .bind (.report rfl) fun _ =>
        .reporting (.mono (controller.accounts_converge key ingress) told) fun status => rfl

/-- A step of a removal that fails is not reported by itself. -/
theorem accounts_teardown
    (key : IngressKey)
    (balancer : LoadBalancer) :
    (teardown key balancer).Accounts fun error graves =>
      graves = [] ∧ ∃ step cause, error = .teardown step cause := by
  rw [teardown]
  refine .bind (.collaborator fun cause => ⟨rfl, _, cause, rfl⟩) fun _ => ?_
  refine .bind (.collaborator fun cause => ⟨rfl, _, cause, rfl⟩) fun _ => ?_
  refine .bind (.collaborator fun cause => ⟨rfl, _, cause, rfl⟩) fun _ => ?_
  refine .bind (.report rfl) fun _ => ?_
  refine .bind (.cloud fun error => ⟨rfl, _, .cloud error, rfl⟩) fun _ => .report rfl

theorem accounts_delete
    (controller : Controller)
    (key : IngressKey) :
    (controller.delete key).Accounts (controller.IsReported (.delete key)) := by
  rw [delete]
  refine .bind (.cloud (.lookup key _)) ?_
  rintro (_ | balancer)
  · exact .report rfl
  · refine .reporting (.mono (accounts_teardown key balancer) ?_) fun done => rfl
    rintro error graves ⟨rfl, step, cause, rfl⟩
    exact .removal key step cause

/-- What is grave among the reports of an operation is owed to its failure. -/
theorem accounts_attempt
    (controller : Controller)
    (operation : Operation) :
    (controller.attempt operation).Accounts (controller.IsReported operation) := by
  cases operation with
  | reconcile ingress => exact controller.accounts_reconcile ingress
  | delete key => exact controller.accounts_delete key

end Controller

/-! ## How outcomes are told -/

/-- An error ends an operation before its failure can be reported. -/
def Operation.PassesOver : Operation → ControllerError → Prop
  | .reconcile ingress, _ => IngressKey.ofIngress? ingress = none
  | .delete _, error => ∃ name source, error = .lookup name source

namespace ControllerError

variable {error : ControllerError} {event last : Event}

theorem warnings_ne_nil_iff :
    error.warnings ≠ [] ↔ ∃ name previousArn source, error = .recreation name previousArn source := by
  cases error <;> simp [warnings]

theorem level_of_mem_warnings
    (warned : event ∈ error.warnings) :
    event.level = .warning := by
  cases error with
  | recreation name previousArn source =>
      rcases List.mem_singleton.mp warned with rfl
      rfl
  | _ => cases warned

/-- Of the warnings of an error and one failure after them, the failure is the only one. -/
theorem ofLevel_failure_warnings
    (isFailure : last.level = .failure) :
    Event.ofLevel .failure (error.warnings ++ [last]) = [last] := by
  have noneFails : Event.ofLevel .failure error.warnings = [] :=
    List.filter_eq_nil_iff.mpr fun event warned => by simp [level_of_mem_warnings warned]
  rw [Event.ofLevel, List.filter_append]
  change Event.ofLevel .failure error.warnings ++ _ = _
  rw [noneFails]
  simp [isFailure]

theorem ofLevel_warning_warnings
    (isFailure : last.level = .failure) :
    Event.ofLevel .warning (error.warnings ++ [last]) = error.warnings := by
  have allWarn : Event.ofLevel .warning error.warnings = error.warnings :=
    List.filter_eq_self.mpr fun event warned => by simp [level_of_mem_warnings warned]
  rw [Event.ofLevel, List.filter_append]
  change Event.ofLevel .warning error.warnings ++ _ = _
  rw [allWarn]
  simp [isFailure]

end ControllerError

namespace Controller

variable {controller : Controller} {operation : Operation} {reports : List Event}
  {result : Except ControllerError operation.Outcome} {error : ControllerError}

/-- The reports of an operation tell how it ended. -/
structure TellsOutcome
    (operation : Operation)
    (result : Except ControllerError operation.Outcome)
    (reports : List Event) : Prop where
  /-- Nothing is reported as failed by an operation that succeeds. -/
  silentSuccess : ∀ outcome, result = .ok outcome → Event.ofLevel .failure reports = []
  /-- One event is reported as failed by an operation that fails, and it ends with the message of the
  error, unless the error is passed over. -/
  tellsFailure :
    ∀ error, result = .error error → ¬ operation.PassesOver error →
      ∃ event front, Event.ofLevel .failure reports = [event] ∧
        event.message = front ++ error.message
  passesOver :
    ∀ error, result = .error error → operation.PassesOver error →
      Event.ofLevel .failure reports = []
  /-- There is a warning exactly if a load balancer was deleted and could not be created anew. -/
  warns_iff :
    Event.ofLevel .warning reports ≠ [] ↔
      ∃ name previousArn source, result = .error (.recreation name previousArn source)

/-- Where nothing grave is reported, nothing failed or the failure is passed over. -/
theorem tellsOutcome_of_silent
    (silent : Event.grave reports = [])
    (passed :
      ∀ error, result = .error error → operation.PassesOver error ∧
        ∀ name previousArn source, error ≠ .recreation name previousArn source) :
    TellsOutcome operation result reports := by
  have nothing (level : Level) (isGrave : level ≠ .information) :
      Event.ofLevel level reports = [] := by
    rw [← Event.ofLevel_grave isGrave, silent]
    rfl
  constructor
  case silentSuccess => exact fun _ _ => nothing .failure (by decide)
  case tellsFailure => exact fun error fails notPassed => absurd (passed error fails).1 notPassed
  case passesOver => exact fun _ _ _ => nothing .failure (by decide)
  case warns_iff =>
    constructor
    · exact fun warned => absurd (nothing .warning (by decide)) warned
    · rintro ⟨name, previousArn, source, fails⟩
      exact absurd rfl ((passed _ fails).2 name previousArn source)

/-- A failure is told by one event after its warnings. -/
theorem tellsOutcome_of_told
    {last : Event}
    {front : String}
    (graves : Event.grave reports = error.warnings ++ [last])
    (isFailure : last.level = .failure)
    (named : last.message = front ++ error.message)
    (notPassed : ¬ operation.PassesOver error) :
    TellsOutcome operation (.error error) reports := by
  have failures : Event.ofLevel .failure reports = [last] := by
    rw [← Event.ofLevel_grave (by decide), graves]
    exact ControllerError.ofLevel_failure_warnings isFailure
  have warnings : Event.ofLevel .warning reports = error.warnings := by
    rw [← Event.ofLevel_grave (by decide), graves]
    exact ControllerError.ofLevel_warning_warnings isFailure
  constructor
  case silentSuccess => exact fun _ succeeds => nomatch succeeds
  case tellsFailure =>
    rintro _ ⟨⟩ -
    exact ⟨last, front, failures, named⟩
  case passesOver =>
    rintro _ ⟨⟩ passed
    exact absurd passed notPassed
  case warns_iff =>
    rw [warnings, ControllerError.warnings_ne_nil_iff]
    simp

/-- What accounts for the grave reports of an operation tells how it ended. -/
theorem tellsOutcome_of_accounted
    (accounted : Attempt.Accounted (controller.IsReported operation) (Event.grave reports) result) :
    TellsOutcome operation result reports := by
  cases accounted with
  | success outcome quiet => exact tellsOutcome_of_silent quiet fun _ fails => nomatch fails
  | @failure error isOwed =>
      -- The cases of what is owed fix the grave reports, which are those of this run.
      generalize isGraves : Event.grave reports = graves at isOwed
      cases isOwed with
      | @cycle ingress key named error =>
          have notPassed : ¬ (Operation.reconcile ingress).PassesOver error :=
            fun nameless => nomatch named.symm.trans nameless
          exact tellsOutcome_of_told isGraves rfl rfl notPassed
      | removal key step cause =>
          refine tellsOutcome_of_told isGraves rfl rfl ?_
          rintro ⟨name, source, same⟩
          cases same
      | nameless nameless =>
          refine tellsOutcome_of_silent isGraves ?_
          rintro _ ⟨⟩
          exact ⟨nameless, fun _ _ _ same => nomatch same⟩
      | lookup key name source =>
          refine tellsOutcome_of_silent isGraves ?_
          rintro _ ⟨⟩
          exact ⟨⟨name, source, rfl⟩, fun _ _ _ same => nomatch same⟩

/-- Whatever is replied, the reports of an operation tell how it ended, and they are what it adds to the
log of a world. -/
theorem tellsOutcome
    (controller : Controller)
    (operation : Operation) :
    (∀ (State : Type) (answer : (asked : Request) → State → asked.Reply × State) (state : State),
        TellsOutcome operation
          ((ExceptT.run (controller.attempt operation)).run answer state).1
          ((ExceptT.run (controller.attempt operation)).reports answer state)) ∧
      ∀ world : World,
        ∃ reports, (world.run (controller.attempt operation)).2.log = world.log ++ reports ∧
          TellsOutcome operation (world.run (controller.attempt operation)).1 reports := by
  have tells (State : Type) (answer : (asked : Request) → State → asked.Reply × State)
      (state : State) :=
    tellsOutcome_of_accounted ((controller.accounts_attempt operation).accounted answer state)
  exact ⟨tells, fun world => ⟨_, world.log_run _, tells World World.answer world⟩⟩

/-- If an operation fails in a world, an event is logged as failed. -/
def TellsEveryFailure
    (controller : Controller)
    (operation : Operation)
    (world : World) : Prop :=
  ∀ error, (world.run (controller.attempt operation)).1 = .error error →
    ∃ event, event ∈ (world.run (controller.attempt operation)).2.log.drop world.log.length ∧
      event.level = .failure

end Controller

/-! ## A lookup that is refused -/

namespace RefusingCloud

/-- A controller that converges attributes itself. -/
def controller : Controller := ⟨.ofConfiguration {}, .direct⟩

/-- The key whose load balancer is to be removed. -/
def key : IngressKey := ⟨IngressKey.defaultNamespace, "web"⟩

/-- The next lookup of a load balancer is refused. -/
def world : World :=
  { World.start "us-east-1" {} with
    cloud := (CloudService.empty "us-east-1").failNext "DescribeLoadBalancers" "boom" }

end RefusingCloud

/-- Neither a removal whose lookup is refused nor a cycle for an ingress without a name tells that it
failed. -/
theorem Controller.refusingCloud_not_tellsEveryFailure :
    ¬ RefusingCloud.controller.TellsEveryFailure (.delete RefusingCloud.key) RefusingCloud.world ∧
      ¬ RefusingCloud.controller.TellsEveryFailure (.reconcile ⟨none, none⟩) RefusingCloud.world := by
  constructor
  · intro tells
    rcases tells (.lookup _ (.api "DescribeLoadBalancers" "boom")) rfl with ⟨event, logged, -⟩
    cases logged
  · intro tells
    rcases tells (.invalidIngress "ingress has no name") rfl with ⟨event, logged, -⟩
    cases logged

end IngressConvergence
