import IngressConvergence.Convergence.Removal
import IngressConvergence.Proofs.Course.Instance
import IngressConvergence.Proofs.World.Beginning

/-!
# The courses of cycles and removals

A cycle either stops before it looks for its load balancer and has then changed nothing, or it goes on
from a desired state that is allowed; this is `World.run_reconcile_cases`.  From there a load balancer is
ensured, and all that follows is attached to its handle, as `Controller.ProvideCourse` says.  A removal
goes one of three ways, listed by `Controller.RemovalCourse`.
-/

namespace IngressConvergence

namespace Convergence

/-! ## What is attached to a load balancer -/

theorem asksOnly_convergeAttributes
    (arn : String)
    (desired : Table String) :
    (convergeAttributes arn desired).AsksOnly (Request.IsCallOf (CloudCall.AttachesTo arn)) := by
  rw [convergeAttributes]
  refine .ite ?_ (.ofExcept (.ok ()))
  refine .bind (.single rfl) fun current => .ite ?_ (.ofExcept (.ok ()))
  exact .bind (.single trivial) fun _ => .single rfl

theorem asksOnly_carryOut
    (arn : String)
    (plan : WebAclPlan) :
    (carryOut arn plan).AsksOnly (Request.IsCallOf (CloudCall.AttachesTo arn)) := by
  cases plan with
  | keep => exact .ofExcept (.ok ())
  | associate webAclId => exact .bind (.single trivial) fun _ => .single rfl
  | disassociate => exact .bind (.single trivial) fun _ => .single rfl

theorem asksOnly_convergeWebAcl
    (arn : String)
    (desired : Option String) :
    (convergeWebAcl arn desired).AsksOnly (Request.IsCallOf (CloudCall.AttachesTo arn)) := by
  rw [convergeWebAcl]
  refine .bind (.single rfl) fun current => ?_
  cases desired with
  | none => exact asksOnly_carryOut arn (planWebAcl current none)
  | some webAclId =>
      refine .bind ?_ fun _ => asksOnly_carryOut arn (planWebAcl current (some webAclId))
      exact .bind (.single rfl) fun known => .ite (.ofExcept (.error _)) (.ofExcept (.ok ()))

end Convergence

namespace DesiredState

theorem asksOnly_resolveSecurityGroups
    {kind : CloudCall → Prop}
    (looksUp : ∀ names, kind (.findSecurityGroups names))
    (items : List String) :
    (resolveSecurityGroups items).AsksOnly (Request.IsCallOf kind) := by
  rw [resolveSecurityGroups_eq]
  exact .ite (.ofExcept _) (.bind (.single (looksUp _)) fun groups => .ofExcept _)

end DesiredState

namespace Controller

variable {Failure Value : Type} {controller : Controller} {key : IngressKey} {ingress : Ingress}
  {annotations : LoadBalancerAnnotations} {desired : DesiredState} {balancer : LoadBalancer}
  {tables after : CloudTables} {calls : List CloudCall}

theorem asksOnly_takeStep
    {kind : CloudCall → Prop}
    {attempt : Attempt Failure Value}
    (asks : attempt.AsksOnly (Request.IsCallOf kind))
    (step : DependentStep)
    (toCause : Failure → Cause) :
    (takeStep step toCause attempt).AsksOnly (Request.IsCallOf kind) :=
  .bind (.single trivial) fun _ => asks.mapFailure _

theorem asksOnly_takeStep_collaborator
    {kind : CloudCall → Prop}
    (step : DependentStep)
    (call : CollaboratorCall) :
    (takeStep step id (Attempt.collaborator call id)).AsksOnly (Request.IsCallOf kind) := by
  have single : (Attempt.collaborator call id).AsksOnly (Request.IsCallOf kind) := .single trivial
  exact asksOnly_takeStep single step id

theorem asksOnly_attributesStep
    (controller : Controller)
    (arn : String)
    (desired : Table String) :
    (controller.attributesStep arn desired).AsksOnly
      (Request.IsCallOf (CloudCall.AttachesTo arn)) := by
  rw [attributesStep]
  split
  · exact Convergence.asksOnly_convergeAttributes arn desired
  · exact .single trivial

theorem asksOnly_securityGroupsStep
    {kind : CloudCall → Prop}
    (looksUp : ∀ names, kind (.findSecurityGroups names))
    (targetGroups : TargetGroupSet) :
    (securityGroupsStep key annotations balancer targetGroups).AsksOnly
      (Request.IsCallOf kind) :=
  .bind ((DesiredState.asksOnly_resolveSecurityGroups looksUp _).mapFailure _) fun _ =>
    .single trivial

/-- The steps that follow a load balancer ask for nothing but what is attached to it. -/
theorem asksOnly_convergeDependents :
    (controller.convergeDependents key ingress annotations balancer).AsksOnly
      (Request.IsCallOf (CloudCall.AttachesTo balancer.arn)) := by
  rw [convergeDependents]
  refine .bind ?_ fun _ => .bind ?_ fun _ => .bind ?_ fun targetGroups =>
    .bind ?_ fun _ => .bind ?_ fun _ => ?_
  · exact asksOnly_takeStep (controller.asksOnly_attributesStep _ _) _ _
  · exact asksOnly_takeStep (Convergence.asksOnly_convergeWebAcl _ _) _ _
  · exact asksOnly_takeStep_collaborator _ _
  · exact asksOnly_takeStep_collaborator _ _
  · exact asksOnly_takeStep_collaborator _ _
  · exact asksOnly_takeStep (asksOnly_securityGroupsStep (fun _ => rfl) targetGroups) _ _

/-! ## What follows an allowed desired state -/

/-- The ways from an allowed desired state to the end of a cycle. -/
inductive ProvideCourse
    (desired : DesiredState)
    (tables : CloudTables) :
    List CloudCall → Except ControllerError LoadBalancerStatus → CloudTables → Prop where
  | stopped
      {calls : List CloudCall}
      {after : CloudTables}
      {error : ControllerError}
      (instances : Convergence.InstanceCourse desired tables calls (.error error) after) :
      ProvideCourse desired tables calls (.error error) after
  | wentOn
      {balancer : LoadBalancer}
      {middle after : CloudTables}
      {earlier later : List CloudCall}
      {result : Except ControllerError LoadBalancerStatus}
      (instances : Convergence.InstanceCourse desired tables earlier (.ok balancer) middle)
      (attaches : ∀ call ∈ later, call.AttachesTo balancer.arn)
      (attached : middle.Becomes (CloudCall.AttachesTo balancer.arn) after)
      (told : ∀ status, result = .ok status → status = ⟨balancer.arn, balancer.dnsName⟩) :
      ProvideCourse desired tables (earlier ++ later) result after

theorem provideCourse_of_course
    {result : Except ControllerError LoadBalancerStatus}
    (course :
      (controller.provide key ingress annotations desired).Course tables calls result after) :
    ProvideCourse desired tables calls result after := by
  rcases course.bind with
    ⟨error, rfl, ensures⟩ | ⟨balancer, earlier, middle, later, rfl, ensures, rest⟩
  · exact .stopped (Convergence.instanceCourse_of_course ensures)
  · have asks :
        Attempt.AsksOnly (Request.IsCallOf (CloudCall.AttachesTo balancer.arn))
          (do
            controller.convergeDependents key ingress annotations balancer
            return (⟨balancer.arn, balancer.dnsName⟩ : LoadBalancerStatus)) :=
      .bind asksOnly_convergeDependents fun _ => .ofExcept (.ok _)
    rcases rest.of_asksOnly asks with ⟨attached, attaches⟩
    refine .wentOn (Convergence.instanceCourse_of_course ensures) attaches attached ?_
    rintro status rfl
    rcases rest.bind with ⟨failure, same, -⟩ | ⟨-, first, last, second, -, -, ends⟩
    · cases same
    · exact Except.ok.inj ends.pure.1

end Controller

/-! ## Cycles -/

namespace World

/-- A cycle for an ingress goes on from a desired state that is allowed, and takes a course from
there. -/
structure Proceeds
    (world : World)
    (controller : Controller)
    (ingress : Ingress)
    (key : IngressKey)
    (annotations : IngressAnnotations)
    (subnets : List String)
    (calls : List CloudCall) : Prop where
  named : IngressKey.ofIngress? ingress = some key
  begins :
    ∃ prepared, (world.started key).Begins controller key annotations subnets prepared
  added :
    (world.run (controller.reconcile ingress)).2.cloud.mutatingCalls =
      world.cloud.mutatingCalls ++ calls
  course :
    Controller.ProvideCourse (.ofSubnets controller.naming key annotations subnets)
      world.cloud.tables calls (world.run (controller.reconcile ingress)).1
      (world.run (controller.reconcile ingress)).2.cloud.tables

/-- A cycle is stopped before it looks for its load balancer and has changed nothing, or what follows an
allowed desired state takes its course from the tables before. -/
theorem run_reconcile_course
    (world : World)
    (controller : Controller)
    (ingress : Ingress) :
    (∃ error, (world.run (controller.reconcile ingress)).1 = .error error ∧
        Unchanged world (world.run (controller.reconcile ingress)).2) ∨
      ∃ key annotations subnets calls,
        IngressKey.ofIngress? ingress = some key ∧
          (∃ prepared, (world.started key).Begins controller key annotations subnets prepared) ∧
          (world.run (controller.reconcile ingress)).2.cloud.mutatingCalls =
            world.cloud.mutatingCalls ++ calls ∧
          (controller.provide key ingress annotations.loadBalancer
              (.ofSubnets controller.naming key annotations subnets)).Course
            world.cloud.tables calls (world.run (controller.reconcile ingress)).1
            (world.run (controller.reconcile ingress)).2.cloud.tables := by
  cases named : IngressKey.ofIngress? ingress with
  | none =>
      left
      rw [Controller.reconcile, named]
      exact ⟨_, rfl, .refl world⟩
  | some key =>
      rcases world.run_reconcile_of_ofIngress? named controller with ⟨sameResult, reported⟩
      have start := world.unchanged_started key
      rcases (world.started key).run_converge_cases controller key ingress with
        ⟨error, -, fails, unchanged⟩ | ⟨annotations, subnets, prepared, begun, goesOn⟩
      · left
        exact ⟨error, sameResult.trans fails, start.trans (unchanged.trans reported)⟩
      · right
        let rest :=
          controller.provide key ingress annotations.loadBalancer
            (.ofSubnets controller.naming key annotations subnets)
        rcases rest.course_of_run prepared with ⟨calls, added, course⟩
        have unchanged := start.trans begun.unchanged
        rw [unchanged.tables] at course
        refine ⟨key, annotations, subnets, calls, rfl, ⟨prepared, begun⟩, ?_, ?_⟩
        · rw [reported.mutatingCalls, goesOn, added, unchanged.mutatingCalls]
        · rw [sameResult, reported.tables, goesOn]
          exact course

theorem run_reconcile_cases
    (world : World)
    (controller : Controller)
    (ingress : Ingress) :
    (∃ error, (world.run (controller.reconcile ingress)).1 = .error error ∧
        Unchanged world (world.run (controller.reconcile ingress)).2) ∨
      ∃ key annotations subnets calls,
        world.Proceeds controller ingress key annotations subnets calls := by
  rcases world.run_reconcile_course controller ingress with
    stopped | ⟨key, annotations, subnets, calls, named, begins, added, course⟩
  · exact .inl stopped
  · exact .inr ⟨key, annotations, subnets, calls, named, begins, added,
      Controller.provideCourse_of_course course⟩

end World

/-! ## Removals -/

namespace Controller

variable {controller : Controller} {key : IngressKey} {balancer : LoadBalancer}
  {tables after : CloudTables} {calls : List CloudCall}

/-- The ways of a removal: it fails and leaves the tables as they are, or there is nothing to remove, or
the load balancer is deleted. -/
inductive RemovalCourse
    (name : String)
    (tables : CloudTables) :
    Except ControllerError Unit → CloudTables → Prop where
  | failed
      (error : ControllerError) :
      RemovalCourse name tables (.error error) tables
  | nothing
      (absent : tables.findByName name = none) :
      RemovalCourse name tables (.ok ()) tables
  | removed
      {balancer : LoadBalancer}
      (found : tables.findByName name = some balancer) :
      RemovalCourse name tables (.ok ()) (tables.delete balancer.arn)

/-- What depends on a load balancer is removed without a change to the tables. -/
theorem collaborator_bind_cases
    {call : CollaboratorCall}
    {wrap : Cause → ControllerError}
    {next : call.Answer → Attempt ControllerError Unit}
    {result : Except ControllerError Unit}
    (course : (Attempt.collaborator call wrap >>= next).Course tables calls result after) :
    (∃ error, result = .error error ∧ after = tables) ∨
      ∃ answer later, (next answer).Course tables later result after := by
  rcases course.bind with ⟨error, rfl, asks⟩ | ⟨answer, earlier, middle, later, rfl, asks, rest⟩
  · exact .inl ⟨error, rfl, asks.collaborator.2⟩
  · rcases asks.collaborator with ⟨-, rfl⟩
    exact .inr ⟨answer, later, rest⟩

theorem removalCourse_of_teardown
    {name : String}
    {result : Except ControllerError Unit}
    (found : tables.findByName name = some balancer)
    (course : (teardown key balancer).Course tables calls result after) :
    RemovalCourse name tables result after := by
  rcases collaborator_bind_cases course with ⟨error, rfl, rfl⟩ | ⟨_, _, listeners⟩
  · exact .failed error
  rcases collaborator_bind_cases listeners with ⟨error, rfl, rfl⟩ | ⟨_, _, targetGroups⟩
  · exact .failed error
  rcases collaborator_bind_cases targetGroups with ⟨error, rfl, rfl⟩ | ⟨_, _, removal⟩
  · exact .failed error
  have deletes := removal.report_bind
  rcases deletes.cloud_bind with
    ⟨error, rfl, tried, rfl⟩ | ⟨deleted, middle, later, rfl, performed, reports⟩
  · exact .failed _
  · cases performed
    rcases reports.report with ⟨rfl, rfl, rfl⟩
    exact .removed found

/-- Every removal goes one of the ways. -/
theorem removalCourse_of_run
    (world : World)
    (controller : Controller)
    (key : IngressKey) :
    RemovalCourse (controller.naming.loadBalancerName key) world.cloud.tables
      (world.run (controller.delete key)).1 (world.run (controller.delete key)).2.cloud.tables := by
  rcases (controller.delete key).course_of_run world with ⟨calls, -, course⟩
  rcases course.cloud_bind with
    ⟨error, failed, tried, same⟩ | ⟨existing, middle, later, -, performed, rest⟩
  · rw [failed, same]
    exact .failed _
  · cases performed
    cases found : world.cloud.tables.findByName (controller.naming.loadBalancerName key) with
    | none =>
        rw [found] at rest
        rcases rest.report with ⟨succeeds, -, same⟩
        rw [succeeds, same]
        exact .nothing found
    | some balancer =>
        rw [found] at rest
        exact removalCourse_of_teardown found rest.reporting

end Controller

end IngressConvergence
