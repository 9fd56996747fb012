import IngressConvergence.Proofs.Context.Derivation
import IngressConvergence.Proofs.Abidance
import IngressConvergence.Proofs.FailFast.Cycle

/-!
# The boundaries between the steps of a cycle

A cycle asks before each of the six steps that follow the load balancer whether the step may start.
`Controller.IsDue` says when a request may be made in a cycle at all: the steps come in their order, each
after its own question, and what collaborators are handed is what was answered before in the same cycle.
The main statement is `Controller.stopsAtBoundaries`: every cycle abides by this whatever is answered to
it, and a cycle whose context has ended when it comes to a boundary stops there.
-/

namespace IngressConvergence

/-! ## The calls of the steps -/

/-- The place of a step among the six. -/
def DependentStep.place : DependentStep → Nat
  | .attributes => 0
  | .webAcl => 1
  | .targetGroups => 2
  | .listeners => 3
  | .targetGroupCollection => 4
  | .securityGroups => 5

theorem DependentStep.place_injective
    {step other : DependentStep}
    (same : step.place = other.place) :
    step = other := by
  cases step <;> cases other <;> first | rfl | cases same

theorem DependentStep.place_lt (step : DependentStep) : step.place < 6 := by
  cases step <;> decide

namespace Request

/-- The step in which a call is made. -/
def dependentStep? : Request → Option DependentStep
  | .cloud (.readAttributes _) => some .attributes
  | .cloud (.modifyAttributes _ _) => some .attributes
  | .cloud (.readWebAcl _) => some .webAcl
  | .cloud (.checkWebAcl _) => some .webAcl
  | .cloud (.associateWebAcl _ _) => some .webAcl
  | .cloud (.disassociateWebAcl _) => some .webAcl
  | .cloud (.findSecurityGroups _) => some .securityGroups
  | .collaborator call => call.dependentStep?
  | _ => none

/-- The handle of the load balancer that is handed over in a step. -/
def handle? : Request → Option String
  | .cloud (.readAttributes arn) => some arn
  | .cloud (.modifyAttributes arn _) => some arn
  | .cloud (.readWebAcl arn) => some arn
  | .cloud (.associateWebAcl arn _) => some arn
  | .cloud (.disassociateWebAcl arn) => some arn
  | .collaborator (.convergeAttributes arn _) => some arn
  | .collaborator (.convergeListeners arn _ _) => some arn
  | .collaborator (.convergeSecurityGroups association) => some association.loadBalancerArn
  | _ => none

/-- The target groups that are handed over in a step. -/
def targetGroups? : Request → Option TargetGroupSet
  | .collaborator (.convergeListeners _ _ targetGroups) => some targetGroups
  | .collaborator (.collectTargetGroups inUse) => some inUse
  | .collaborator (.convergeSecurityGroups association) => some association.targetGroups
  | _ => none

/-- Whether a request is the call that converges target groups. -/
def asksForTargetGroups : Request → Bool
  | .collaborator (.convergeTargetGroups _) => true
  | _ => false

/-- A request that is made in a step: one of its calls, or a report. -/
def IsPartOf (step : DependentStep) : Request → Prop
  | .report _ => True
  | asked => asked.dependentStep? = some step

/-- A request that belongs to no step and to no boundary. -/
def IsEarly : Request → Prop
  | .checkpoint _ => False
  | asked => asked.dependentStep? = none

variable {asked : Request}

theorem IsEarly.handle?_eq_none
    (early : asked.IsEarly) :
    asked.handle? = none := by
  cases asked with
  | cloud call => cases call <;> first | rfl | cases early
  | collaborator call => cases call <;> first | rfl | cases early
  | _ => rfl

theorem IsEarly.targetGroups?_eq_none
    (early : asked.IsEarly) :
    asked.targetGroups? = none := by
  cases asked with
  | collaborator call => cases call <;> first | rfl | cases early
  | _ => rfl

theorem IsEarly.dependentStep?_eq_none
    (early : asked.IsEarly) :
    asked.dependentStep? = none := by
  cases asked with
  | checkpoint operation => rfl
  | _ => exact early

theorem IsEarly.asksForTargetGroups_eq_false
    (early : asked.IsEarly) :
    asked.asksForTargetGroups = false := by
  cases asked with
  | collaborator call => cases call <;> first | rfl | cases early
  | _ => rfl

theorem IsPartOf.eq_of_dependentStep?
    {step other : DependentStep}
    (isPart : asked.IsPartOf step)
    (isOf : asked.dependentStep? = some other) :
    other = step := by
  cases asked with
  | report event => cases isOf
  | _ => exact Option.some.inj (isOf.symm.trans isPart)

end Request

/-! ## Steps that are done -/

/-- The first steps have been let pass, and nothing was called in any other. -/
structure StepsDone
    (count : Nat)
    (past : List Answered) : Prop where
  passed :
    ∀ step : DependentStep, step.place < count →
      (⟨.checkpoint step.label, Except.ok ()⟩ : Answered) ∈ past
  called :
    ∀ answered ∈ past, ∀ step, answered.asked.dependentStep? = some step → step.place < count

/-- A step has been let pass after all before it, and since then there was nothing but this step. -/
def IsInStep
    (step : DependentStep)
    (past : List Answered) : Prop :=
  ∃ before within,
    past = before ++ (⟨.checkpoint step.label, Except.ok ()⟩ : Answered) :: within ∧
      StepsDone step.place before ∧ ∀ answered ∈ within, answered.asked.IsPartOf step

section Steps

variable {count : Nat} {past : List Answered} {step : DependentStep} {asked : Request}

/-- What is no call of a step leaves the steps done that are done. -/
theorem StepsDone.append_singleton
    (done : StepsDone count past)
    (noCall : asked.dependentStep? = none)
    (reply : asked.Reply) :
    StepsDone count (past ++ [⟨asked, reply⟩]) where
  passed := fun step before => List.mem_append_left _ (done.passed step before)
  called := by
    intro answered member step isOf
    rcases List.mem_append.mp member with earlier | last
    · exact done.called answered earlier step isOf
    · cases List.mem_singleton.mp last
      cases noCall.symm.trans isOf

theorem StepsDone.isInStep
    (done : StepsDone step.place past) :
    IsInStep step (past ++ [⟨.checkpoint step.label, Except.ok ()⟩]) :=
  ⟨past, [], rfl, done, fun _ member => nomatch member⟩

theorem IsInStep.append_singleton
    (inStep : IsInStep step past)
    (isPart : asked.IsPartOf step)
    (reply : asked.Reply) :
    IsInStep step (past ++ [⟨asked, reply⟩]) := by
  rcases inStep with ⟨before, within, rfl, done, allOfStep⟩
  refine ⟨before, within ++ [⟨asked, reply⟩], by simp, done, ?_⟩
  intro answered member
  rcases List.mem_append.mp member with earlier | last
  · exact allOfStep answered earlier
  · cases List.mem_singleton.mp last
    exact isPart

/-- A step is done when nothing more is asked in it. -/
theorem IsInStep.stepsDone
    (inStep : IsInStep step past) :
    StepsDone (step.place + 1) past := by
  rcases inStep with ⟨before, within, rfl, done, allOfStep⟩
  constructor
  · intro other upTo
    rcases Nat.lt_succ_iff_lt_or_eq.mp upTo with earlier | same
    · exact List.mem_append_left _ (done.passed other earlier)
    · rw [DependentStep.place_injective same]
      exact List.mem_append_right _ List.mem_cons_self
  · intro answered member other isOf
    rcases List.mem_append.mp member with earlier | rest
    · exact Nat.lt_succ_of_lt (done.called answered earlier other isOf)
    · rcases List.mem_cons.mp rest with rfl | inside
      · cases isOf
      · rw [(allOfStep answered inside).eq_of_dependentStep? isOf]
        exact Nat.lt_succ_self step.place

end Steps

/-! ## Requests that are due -/

/-- What comes of the load balancer itself, and the annotations that are used after it. -/
def Controller.ensured (controller : Controller) (key : IngressKey) :
    Attempt ControllerError (IngressAnnotations × LoadBalancer) := do
  let annotations ← Attempt.annotationsOf key (.store key.text)
  let desired ← DesiredState.build controller.naming key annotations
  requireAllowed key desired
  let balancer ← Convergence.ensureInstance desired
  return (annotations, balancer)

namespace Controller

/-- A cycle goes on from the load balancer that was ensured. -/
theorem converge_eq
    (controller : Controller)
    (key : IngressKey)
    (ingress : Ingress) :
    controller.converge key ingress =
      controller.ensured key >>= fun (annotations, balancer) => do
        controller.convergeDependents key ingress annotations.loadBalancer balancer
        return ⟨balancer.arn, balancer.dnsName⟩ := by
  simp only [converge, ensured, bind_assoc, pure_bind]

/-- The requests for target groups, with what was answered to them. -/
def targetGroupAnswers (past : List Answered) : List Answered :=
  past.filter fun answered => answered.asked.asksForTargetGroups

theorem targetGroupAnswers_append
    (past : List Answered)
    {more : List Answered}
    (silent : ∀ answered ∈ more, answered.asked.asksForTargetGroups = false) :
    targetGroupAnswers (past ++ more) = targetGroupAnswers past := by
  have nothing : more.filter (fun answered => answered.asked.asksForTargetGroups) = [] :=
    List.filter_eq_nil_iff.mpr fun answered member => by simp [silent answered member]
  rw [targetGroupAnswers, List.filter_append, nothing, List.append_nil]
  rfl

/-- A cycle for a key has ensured a load balancer: it began with the answers that gave it. -/
def HasEnsured
    (controller : Controller)
    (key : IngressKey)
    (annotations : IngressAnnotations)
    (balancer : LoadBalancer)
    (past : List Answered) : Prop :=
  ∃ answers later, past = ⟨.report (.cycleStarted key), ()⟩ :: answers ++ later ∧
    (ExceptT.run (controller.ensured key)).Gives answers (.ok (annotations, balancer))

/-- There is no more than one load balancer that a cycle has ensured. -/
theorem HasEnsured.unique
    {controller : Controller}
    {key : IngressKey}
    {annotations annotationsToo : IngressAnnotations}
    {balancer other : LoadBalancer}
    {past : List Answered}
    (hasEnsured : controller.HasEnsured key annotations balancer past)
    (hasEnsuredToo : controller.HasEnsured key annotationsToo other past) :
    balancer = other := by
  rcases hasEnsured with ⟨answers, later, isPast, gives⟩
  rcases hasEnsuredToo with ⟨others, laterToo, isPastToo, givesToo⟩
  have alike : answers ++ later = others ++ laterToo :=
    (List.cons.inj (isPast.symm.trans isPastToo)).2
  cases gives.unique givesToo alike
  rfl

/-- A request is due in a cycle after what was answered in it before. -/
structure IsDue
    (controller : Controller)
    (key : IngressKey)
    (ingress : Ingress)
    (past : List Answered)
    (asked : Request) : Prop where
  /-- A boundary is that of a step, and comes after all steps before it and before all calls of this
  step and of later ones. -/
  boundary :
    ∀ operation, asked = .checkpoint operation →
      ∃ step : DependentStep, operation = step.label ∧ StepsDone step.place past
  /-- A call of a step is made after the boundary before the step was passed, and nothing else was done
  since then. -/
  inStep : ∀ step, asked.dependentStep? = some step → IsInStep step past
  /-- Whatever is handed the handle of the load balancer is handed that of the one that was ensured. -/
  handle :
    ∀ arn, asked.handle? = some arn →
      ∃ annotations balancer, controller.HasEnsured key annotations balancer past ∧
        balancer.arn = arn
  /-- Whatever is handed target groups is handed those that were answered in the cycle, in which they
  were asked for once. -/
  targetGroups :
    ∀ targetGroups, asked.targetGroups? = some targetGroups →
      targetGroupAnswers past =
        [⟨.collaborator (.convergeTargetGroups ingress), Except.ok targetGroups⟩]

/-! ## What a step may ask -/

variable {controller : Controller} {key : IngressKey} {ingress : Ingress}
  {annotations : IngressAnnotations} {balancer : LoadBalancer} {step : DependentStep}
  {past given : List Answered} {asked : Request}

/-- A cycle has ensured a load balancer, and what it was answered for target groups is given. -/
structure Stands
    (controller : Controller)
    (key : IngressKey)
    (annotations : IngressAnnotations)
    (balancer : LoadBalancer)
    (given : List Answered)
    (past : List Answered) : Prop where
  ensured : controller.HasEnsured key annotations balancer past
  given : targetGroupAnswers past = given

/-- A request that a step may make: it hands over nothing but one handle and the target groups that are
given, and does not ask for others. -/
structure Suits
    (ingress : Ingress)
    (arn : String)
    (given : List Answered)
    (step : DependentStep)
    (asked : Request) : Prop where
  isPart : asked.IsPartOf step
  silent : asked.asksForTargetGroups = false
  handle : ∀ handed, asked.handle? = some handed → handed = arn
  targetGroups :
    ∀ targetGroups, asked.targetGroups? = some targetGroups →
      given = [⟨.collaborator (.convergeTargetGroups ingress), Except.ok targetGroups⟩]

namespace Suits

variable {arn : String}

theorem of_nothing_handed
    (isPart : asked.IsPartOf step)
    (silent : asked.asksForTargetGroups = false)
    (noHandle : asked.handle? = none)
    (noTargetGroups : asked.targetGroups? = none) :
    Suits ingress arn given step asked where
  isPart := isPart
  silent := silent
  handle := fun _ handed => nomatch noHandle.symm.trans handed
  targetGroups := fun _ handed => nomatch noTargetGroups.symm.trans handed

theorem of_handle
    (isPart : asked.IsPartOf step)
    (silent : asked.asksForTargetGroups = false)
    (isHandle : asked.handle? = some arn)
    (noTargetGroups : asked.targetGroups? = none) :
    Suits ingress arn given step asked where
  isPart := isPart
  silent := silent
  handle := fun _ handed => Option.some.inj (handed.symm.trans isHandle)
  targetGroups := fun _ handed => nomatch noTargetGroups.symm.trans handed

theorem of_targetGroups
    {targetGroups : TargetGroupSet}
    (isPart : asked.IsPartOf step)
    (silent : asked.asksForTargetGroups = false)
    (handle : ∀ handed, asked.handle? = some handed → handed = arn)
    (areTargetGroups : asked.targetGroups? = some targetGroups) :
    Suits ingress arn
      [⟨.collaborator (.convergeTargetGroups ingress), Except.ok targetGroups⟩] step asked where
  isPart := isPart
  silent := silent
  handle := handle
  targetGroups := by
    intro others handed
    cases areTargetGroups.symm.trans handed
    rfl

theorem report
    (event : Event) :
    Suits ingress arn given step (.report event) :=
  of_nothing_handed trivial rfl rfl rfl

end Suits

theorem HasEnsured.append
    (hasEnsured : controller.HasEnsured key annotations balancer past)
    (more : List Answered) :
    controller.HasEnsured key annotations balancer (past ++ more) := by
  rcases hasEnsured with ⟨answers, later, rfl, gives⟩
  exact ⟨answers, later ++ more, List.append_assoc _ _ _, gives⟩

theorem Stands.append
    (stands : controller.Stands key annotations balancer given past)
    {more : List Answered}
    (silent : ∀ answered ∈ more, answered.asked.asksForTargetGroups = false) :
    controller.Stands key annotations balancer given (past ++ more) where
  ensured := stands.ensured.append more
  given := (targetGroupAnswers_append past silent).trans stands.given

/-- In a step whose load balancer stands, requests that suit the step are due. -/
theorem isDue_of_suits
    (inStep : IsInStep step past)
    (stands : controller.Stands key annotations balancer given past)
    (suits : Suits ingress balancer.arn given step asked) :
    controller.IsDue key ingress past asked where
  boundary := by
    rintro operation rfl
    cases suits.isPart
  inStep := by
    intro other isOf
    rwa [suits.isPart.eq_of_dependentStep? isOf]
  handle := fun arn handed =>
    ⟨annotations, balancer, stands.ensured, (suits.handle arn handed).symm⟩
  targetGroups := fun targetGroups handed =>
    stands.given.trans (suits.targetGroups targetGroups handed)

theorem isDue_of_isEarly
    (early : asked.IsEarly) :
    controller.IsDue key ingress past asked where
  boundary := by
    rintro operation rfl
    cases early
  inStep := fun step isOf => nomatch early.dependentStep?_eq_none.symm.trans isOf
  handle := fun arn handed => nomatch early.handle?_eq_none.symm.trans handed
  targetGroups := fun targetGroups handed =>
    nomatch early.targetGroups?_eq_none.symm.trans handed

theorem isDue_checkpoint
    (done : StepsDone step.place past) :
    controller.IsDue key ingress past (.checkpoint step.label) where
  boundary := by
    rintro operation same
    cases same
    exact ⟨step, rfl, done⟩
  inStep := fun _ isOf => nomatch isOf
  handle := fun _ handed => nomatch handed
  targetGroups := fun _ handed => nomatch handed

/-! ## Steps -/

section Steps

variable {Failure Value : Type} {toCause : Failure → Cause} {attempt : Attempt Failure Value}

/-- A step is taken after the boundary before it was passed. -/
theorem abides_takeStep
    {ends : List Answered → Value → Prop}
    (done : StepsDone step.place past)
    (inside :
      attempt.Abides (controller.IsDue key ingress) ends
        (past ++ [⟨.checkpoint step.label, Except.ok ()⟩])) :
    (takeStep step toCause attempt).Abides (controller.IsDue key ingress) ends past := by
  rw [takeStep]
  refine .single_bind (isDue_checkpoint done) ?_
  rintro (error | passed) value same
  · cases same
  · exact inside.mapFailure _

/-- A step that asks only for what suits it is done when it succeeds. -/
theorem abides_takeStep_of_suits
    (asks : attempt.AsksOnly (Suits ingress balancer.arn given step))
    (done : StepsDone step.place past)
    (stands : controller.Stands key annotations balancer given past) :
    (takeStep step toCause attempt).Abides (controller.IsDue key ingress)
      (fun after _ => StepsDone (step.place + 1) after ∧
        controller.Stands key annotations balancer given after)
      past := by
  apply abides_takeStep done
  have allows (reached : List Answered) (asked : Request)
      (inside : IsInStep step reached ∧ controller.Stands key annotations balancer given reached)
      (suits : Suits ingress balancer.arn given step asked) :
      controller.IsDue key ingress reached asked :=
    isDue_of_suits inside.1 inside.2 suits
  have preserved (reached : List Answered) (asked : Request) (reply : asked.Reply)
      (inside : IsInStep step reached ∧ controller.Stands key annotations balancer given reached)
      (suits : Suits ingress balancer.arn given step asked) :
      IsInStep step (reached ++ [⟨asked, reply⟩]) ∧
        controller.Stands key annotations balancer given (reached ++ [⟨asked, reply⟩]) :=
    ⟨inside.1.append_singleton suits.isPart reply,
      inside.2.append fun answered member => by
        cases List.mem_singleton.mp member
        exact suits.silent⟩
  have passed : controller.Stands key annotations balancer given
      (past ++ [⟨.checkpoint step.label, Except.ok ()⟩]) :=
    stands.append fun answered member => by
      cases List.mem_singleton.mp member
      rfl
  refine (Attempt.Abides.of_asksOnly asks allows preserved ⟨done.isInStep, passed⟩).mono ?_
  rintro after value ⟨⟨inStep, standsAfter⟩, -⟩
  exact ⟨inStep.stepsDone, standsAfter⟩

end Steps

theorem suits_attributesStep
    (controller : Controller)
    (arn : String)
    (desired : Table String) :
    (controller.attributesStep arn desired).AsksOnly (Suits ingress arn given .attributes) := by
  rw [attributesStep]
  split
  · rw [Convergence.convergeAttributes]
    refine .ite ?_ (.ofExcept (.ok ()))
    refine .bind (.single (.of_handle rfl rfl rfl rfl)) fun current => ?_
    refine .ite ?_ (.ofExcept (.ok ()))
    exact .bind (.single (.report _)) fun _ => .single (.of_handle rfl rfl rfl rfl)
  · exact .single (.of_handle rfl rfl rfl rfl)

theorem suits_carryOut
    (arn : String)
    (plan : Convergence.WebAclPlan) :
    (Convergence.carryOut arn plan).AsksOnly (Suits ingress arn given .webAcl) := by
  cases plan with
  | keep => exact .ofExcept (.ok ())
  | associate webAclId =>
      exact .bind (.single (.report _)) fun _ => .single (.of_handle rfl rfl rfl rfl)
  | disassociate =>
      exact .bind (.single (.report _)) fun _ => .single (.of_handle rfl rfl rfl rfl)

theorem suits_convergeWebAcl
    (arn : String)
    (desired : Option String) :
    (Convergence.convergeWebAcl arn desired).AsksOnly (Suits ingress arn given .webAcl) := by
  rw [Convergence.convergeWebAcl]
  refine .bind (.single (.of_handle rfl rfl rfl rfl)) fun current => ?_
  cases desired with
  | none => exact suits_carryOut arn _
  | some webAclId =>
      refine .bind ?_ fun _ => suits_carryOut arn _
      exact .bind (.single (.of_nothing_handed rfl rfl rfl rfl)) fun known =>
        .ite (.ofExcept (.error _)) (.ofExcept (.ok ()))

/-- The last step hands over the target groups that are given. -/
theorem suits_securityGroupsStep
    {targetGroups : TargetGroupSet}
    (annotations : LoadBalancerAnnotations) :
    (securityGroupsStep key annotations balancer targetGroups).AsksOnly
      (Suits ingress balancer.arn
        [⟨.collaborator (.convergeTargetGroups ingress), Except.ok targetGroups⟩]
        .securityGroups) := by
  rw [securityGroupsStep, DesiredState.resolveSecurityGroups_eq]
  refine .bind (.mapFailure (.ite (.ofExcept _) ?_) _) fun groups => .single ?_
  · exact .bind (.single (.of_nothing_handed rfl rfl rfl rfl)) fun groups => .ofExcept _
  · exact .of_targetGroups rfl rfl (fun _ handed => (Option.some.inj handed).symm) rfl

/-- When target groups were converged, the answer is what is given from then on. -/
theorem abides_targetGroupsStep
    (done : StepsDone DependentStep.targetGroups.place past)
    (stands : controller.Stands key annotations balancer [] past) :
    (takeStep .targetGroups id (Attempt.collaborator (.convergeTargetGroups ingress) id)).Abides
      (controller.IsDue key ingress)
      (fun after (targetGroups : TargetGroupSet) =>
        StepsDone DependentStep.listeners.place after ∧
          controller.Stands key annotations balancer
            [⟨.collaborator (.convergeTargetGroups ingress), Except.ok targetGroups⟩] after)
      past := by
  apply abides_takeStep done
  have isDue : controller.IsDue key ingress
      (past ++ [⟨.checkpoint DependentStep.targetGroups.label, Except.ok ()⟩])
      (.collaborator (.convergeTargetGroups ingress)) := by
    refine ⟨nofun, ?_, nofun, nofun⟩
    rintro step isOf
    cases isOf
    exact done.isInStep
  have isPart :
      (Request.collaborator (.convergeTargetGroups ingress)).IsPartOf .targetGroups := rfl
  refine .request isDue ?_
  rintro (cause | targetGroups)
  · exact .done nofun
  · refine .done fun value same => ?_
    cases same
    refine ⟨(done.isInStep.append_singleton isPart _).stepsDone, ?_, ?_⟩
    · exact (stands.ensured.append _).append _
    · have before := stands.given
      rw [targetGroupAnswers] at before ⊢
      rw [List.filter_append, List.filter_append, before]
      rfl

/-- The six steps are taken in their order, and target groups are handed on. -/
theorem abides_convergeDependents
    (done : StepsDone DependentStep.attributes.place past)
    (stands : controller.Stands key annotations balancer [] past) :
    (controller.convergeDependents key ingress annotations.loadBalancer balancer).Abides
      (controller.IsDue key ingress) (fun after _ => StepsDone 6 after) past := by
  have ownHandle (handed : String) (same : some balancer.arn = some handed) :
      handed = balancer.arn :=
    (Option.some.inj same).symm
  have noHandle (handed : String) (same : none = some handed) : handed = balancer.arn := by
    cases same
  rw [convergeDependents]
  refine .bind (abides_takeStep_of_suits (controller.suits_attributesStep _ _) done stands) ?_
  rintro past - ⟨done, stands⟩
  refine .bind (abides_takeStep_of_suits (suits_convergeWebAcl _ _) done stands) ?_
  rintro past - ⟨done, stands⟩
  refine .bind (abides_targetGroupsStep done stands) ?_
  rintro past targetGroups ⟨done, stands⟩
  refine .bind (abides_takeStep_of_suits
    (.single (.of_targetGroups rfl rfl ownHandle rfl)) done stands) ?_
  rintro past - ⟨done, stands⟩
  refine .bind (abides_takeStep_of_suits
    (.single (.of_targetGroups rfl rfl noHandle rfl)) done stands) ?_
  rintro past - ⟨done, stands⟩
  refine (abides_takeStep_of_suits (suits_securityGroupsStep _) done stands).mono ?_
  rintro past - ⟨done, -⟩
  exact done

/-! ## Cycles -/

/-- What is asked for until the load balancer stands belongs to no step. -/
theorem isEarly_ensureInstance
    (desired : DesiredState) :
    (Convergence.ensureInstance desired).AsksOnly Request.IsEarly := by
  have creates : (Convergence.createInstance desired).AsksOnly Request.IsEarly :=
    .bind (.single rfl) fun _ => .bind (.single rfl) fun _ => .bind (.single rfl) fun _ =>
      .ofExcept (.ok _)
  have recreates (current : LoadBalancer) :
      (Convergence.recreateInstance current desired).AsksOnly Request.IsEarly := by
    have report (event : Event) : (Request.report event).IsEarly := rfl
    refine .bind (.single rfl) fun _ => .bind (.single rfl) fun _ => .bind (.single rfl) fun _ => ?_
    refine .mapFailure ?_ _
    refine .reporting ?_ report _
    exact .single rfl
  rw [Convergence.ensureInstance]
  refine .bind (.single rfl) ?_
  rintro (_ | current)
  · exact creates
  · refine .ite (recreates current) (.bind ?_ fun _ => .bind ?_ fun _ => .ofExcept (.ok _))
    · exact .ite (.bind (.single rfl) fun _ => .single rfl) (.ofExcept (.ok ()))
    · exact .ite (.bind (.single rfl) fun _ => .single rfl) (.ofExcept (.ok ()))

/-- What comes of the load balancer itself asks nothing that belongs to a step. -/
theorem isEarly_ensured
    (controller : Controller)
    (key : IngressKey) :
    (controller.ensured key).AsksOnly Request.IsEarly := by
  rw [ensured]
  refine .bind (.single rfl) fun annotations => .bind ?_ fun desired => .bind ?_ fun _ =>
    .bind (isEarly_ensureInstance desired) fun balancer => .ofExcept (.ok _)
  · rw [DesiredState.build, DesiredState.resolveSubnets]
    refine .bind (.mapFailure (.ite ?_ ?_) _) fun subnets => .ofExcept (.ok _)
    · exact .bind (.single rfl) fun subnets => .ofExcept (.ok _)
    · rw [DesiredState.resolveAnnotatedSubnets_eq]
      refine .bind (.ite (.ofExcept _) ?_) fun subnets => .ofExcept (.ok _)
      exact .bind (.single rfl) fun ids => .ofExcept _
  · exact .bind (.single rfl) fun configuration => .ofExcept _

/-- A cycle asks for nothing that belongs to a step until it has ensured its load balancer. -/
theorem abides_ensured
    (controller : Controller)
    (key : IngressKey)
    (ingress : Ingress) :
    (controller.ensured key).Abides (controller.IsDue key ingress)
      (fun after (annotations, balancer) => StepsDone DependentStep.attributes.place after ∧
        controller.Stands key annotations balancer [] after)
      [⟨.report (.cycleStarted key), ()⟩] := by
  have allows (past : List Answered) (asked : Request)
      (_ : StepsDone 0 past ∧ targetGroupAnswers past = []) (early : asked.IsEarly) :
      controller.IsDue key ingress past asked :=
    isDue_of_isEarly early
  have preserved (past : List Answered) (asked : Request) (reply : asked.Reply)
      (before : StepsDone 0 past ∧ targetGroupAnswers past = []) (early : asked.IsEarly) :
      StepsDone 0 (past ++ [⟨asked, reply⟩]) ∧ targetGroupAnswers (past ++ [⟨asked, reply⟩]) = [] := by
    refine ⟨before.1.append_singleton early.dependentStep?_eq_none reply, ?_⟩
    rw [targetGroupAnswers_append, before.2]
    intro answered member
    cases List.mem_singleton.mp member
    exact early.asksForTargetGroups_eq_false
  have started : StepsDone 0 [⟨.report (.cycleStarted key), ()⟩] :=
    ⟨nofun, by simp [Request.dependentStep?]⟩
  refine (Attempt.Abides.of_asksOnly (controller.isEarly_ensured key) allows preserved
    ⟨started, rfl⟩).mono ?_
  rintro after ⟨annotations, balancer⟩ ⟨⟨done, nothing⟩, answers, rfl, gives⟩
  exact ⟨done, ⟨answers, [], (List.append_nil _).symm, gives⟩, nothing⟩

/-- Every cycle asks for what is due, and the steps are done when it succeeds. -/
theorem abides_reconcile
    (controller : Controller)
    (named : IngressKey.ofIngress? ingress = some key) :
    (controller.reconcile ingress).Abides (controller.IsDue key ingress)
      (fun after _ => StepsDone 6 after) [] := by
  have reports (past : List Answered) (event : Event) :
      controller.IsDue key ingress past (.report event) := by
    have early : (Request.report event).IsEarly := rfl
    exact isDue_of_isEarly early
  rw [reconcile, named]
  refine .single_bind (reports _ _) fun reply value same => ?_
  refine .reporting ?_ reports ?_ _
  · rw [converge_eq]
    refine .bind (controller.abides_ensured key ingress) ?_
    rintro past ⟨annotations, balancer⟩ ⟨done, stands⟩
    exact .bind (abides_convergeDependents done stands) fun past _ done => .pure done
  · intro past event value done
    have noCall : (Request.report event).dependentStep? = none := rfl
    exact done.append_singleton noCall ()

/-- However requests are answered, a cycle stops at a boundary when its context has ended there, and
hands on what was answered in it. -/
structure StopsAtBoundaries
    {State : Type}
    (answer : (asked : Request) → State → asked.Reply × State)
    (context : State → CallContext)
    (timeline : State → Timeline)
    (controller : Controller)
    (ingress : Ingress)
    (state : State) : Prop where
  /-- If the context has ended when a boundary is reached, the cycle fails as cancelled or late, in the
  name of the step and not as a failure of the firewall, and no call of this step or a later one is made
  in the cycle. -/
  stops :
    ∀ (earlier : List (Exchange State)) (boundary : Exchange State) (later : List (Exchange State))
      (step : DependentStep),
      (ExceptT.run (controller.reconcile ingress)).transcript answer state =
          earlier ++ boundary :: later →
        boundary.asked = .checkpoint step.label →
          ¬ (context boundary.before).IsLive (timeline boundary.before) →
            ∃ error,
              ((ExceptT.run (controller.reconcile ingress)).run answer state).1 = .error error ∧
                error = .dependentResource step (.cloud
                  (if (context boundary.before).isCancelled (timeline boundary.before) then
                    .cancelled step.label
                  else .deadlineExceeded step.label)) ∧
                error.isCancellation = true ∧ error.isWebAclError = false ∧
                ∀ exchange ∈ (ExceptT.run (controller.reconcile ingress)).transcript answer state,
                  ∀ other, exchange.asked.dependentStep? = some other → other.place < step.place
  /-- Whatever is asked is due: the steps are taken in their order, each after its own boundary, and they
  hand on the target groups that were answered and the load balancer that was ensured. -/
  isDue :
    ∀ (key : IngressKey) (earlier : List (Exchange State)) (exchange : Exchange State)
      (later : List (Exchange State)),
      IngressKey.ofIngress? ingress = some key →
        (ExceptT.run (controller.reconcile ingress)).transcript answer state =
            earlier ++ exchange :: later →
          controller.IsDue key ingress (earlier.map Exchange.answered) exchange.asked
  /-- Whatever is handed the handle of a load balancer in a step is handed that of the load balancer that
  the cycle ensures after its start. -/
  handsOn :
    ∀ (key : IngressKey) (annotations : IngressAnnotations) (balancer : LoadBalancer),
      IngressKey.ofIngress? ingress = some key →
        ((ExceptT.run (controller.ensured key)).run answer
            (answer (.report (.cycleStarted key)) state).2).1 = .ok (annotations, balancer) →
          ∀ exchange ∈ (ExceptT.run (controller.reconcile ingress)).transcript answer state,
            ∀ arn, exchange.asked.handle? = some arn → arn = balancer.arn
  /-- All boundaries are passed in a cycle that succeeds. -/
  passes :
    ∀ status,
      ((ExceptT.run (controller.reconcile ingress)).run answer state).1 = .ok status →
        ∀ step : DependentStep,
          ∃ exchange ∈ (ExceptT.run (controller.reconcile ingress)).transcript answer state,
            exchange.answered = ⟨.checkpoint step.label, Except.ok ()⟩

section Runs

variable {State : Type} {answer : (asked : Request) → State → asked.Reply × State}
  {context : State → CallContext} {timeline : State → Timeline} {state : State}
  {earlier later : List (Exchange State)} {boundary : Exchange State}

/-- A cycle begins with what its load balancer comes of. -/
theorem hasEnsured_of_run
    (named : IngressKey.ofIngress? ingress = some key)
    (ensures :
      ((ExceptT.run (controller.ensured key)).run answer
        (answer (.report (.cycleStarted key)) state).2).1 = .ok (annotations, balancer)) :
    controller.HasEnsured key annotations balancer
      (((ExceptT.run (controller.reconcile ingress)).transcript answer state).map
        Exchange.answered) := by
  have begins (after : State) :
      ∃ later, (ExceptT.run (controller.converge key ingress)).transcript answer after =
        (ExceptT.run (controller.ensured key)).transcript answer after ++ later := by
    rw [converge_eq, ExceptT.run_bind]
    exact ⟨_, Program.transcript_bind answer _ _ after⟩
  have goesOn :
      ∃ later, (ExceptT.run (controller.reconcile ingress)).transcript answer state =
        ⟨state, .report (.cycleStarted key), (), (answer (.report (.cycleStarted key)) state).2⟩ ::
          (ExceptT.run (controller.converge key ingress)).transcript answer
            (answer (.report (.cycleStarted key)) state).2 ++ later := by
    rw [reconcile, named]
    exact ⟨_, congrArg (List.cons _)
      (Program.transcript_bind answer (ExceptT.run (controller.converge key ingress)) _ _)⟩
  rcases begins (answer (.report (.cycleStarted key)) state).2 with ⟨others, begins⟩
  rcases goesOn with ⟨later, goesOn⟩
  have gives := Program.gives_run answer (ExceptT.run (controller.ensured key))
    (answer (.report (.cycleStarted key)) state).2
  rw [ensures] at gives
  refine ⟨_, (others ++ later).map Exchange.answered, ?_, gives⟩
  rw [goesOn, begins]
  simp only [List.cons_append, List.append_assoc, List.map_cons, List.map_append]
  rfl

/-- A boundary that is reached when the context has ended is not passed. -/
theorem refusal?_of_not_isLive
    (checks :
      ∀ operation state, (answer (.checkpoint operation) state).1 =
        (context state).check (timeline state) operation)
    {program : Program (Except ControllerError LoadBalancerStatus)}
    (member : boundary ∈ program.transcript answer state)
    (isBoundary : boundary.asked = .checkpoint step.label)
    (dead : ¬ (context boundary.before).IsLive (timeline boundary.before)) :
    boundary.refusal? =
      some (.cloud
        (if (context boundary.before).isCancelled (timeline boundary.before) then
          .cancelled step.label
        else .deadlineExceeded step.label)) := by
  have replied := Program.reply_of_mem_transcript answer boundary member
  rcases boundary with ⟨before, asked, reply, after⟩
  cases isBoundary
  have refused : reply = .error _ :=
    replied.trans ((checks _ before).trans (CallContext.check_of_not_isLive step.label dead))
  show (failureOf? reply).map Cause.cloud = _
  rw [refused]
  rfl

/-- After a boundary that is not passed, and before it, there are only calls of earlier steps. -/
theorem place_lt_of_refused
    (named : IngressKey.ofIngress? ingress = some key)
    {cause : Cause}
    (split :
      (ExceptT.run (controller.reconcile ingress)).transcript answer state =
        earlier ++ boundary :: later)
    (isBoundary : boundary.asked = .checkpoint step.label)
    (refusal : boundary.refusal? = some cause) :
    ∀ exchange ∈ (ExceptT.run (controller.reconcile ingress)).transcript answer state,
      ∀ other, exchange.asked.dependentStep? = some other → other.place < step.place := by
  intro exchange member other isOf
  rw [split] at member
  rcases List.mem_append.mp member with before | atOrAfter
  · have isDue :=
      Program.Abides.rule_of_split answer (controller.abides_reconcile named) state split
    rcases isDue.boundary _ isBoundary with ⟨its, sameLabel, done⟩
    rw [DependentStep.label_injective sameLabel]
    exact done.called _ (List.mem_map_of_mem before) other isOf
  · rcases List.mem_cons.mp atOrAfter with rfl | after
    · rw [isBoundary] at isOf
      cases isOf
    · rcases (controller.failsFast_reconcile ingress).stops_after answer state split refusal with
        ⟨-, onlyReports⟩
      rcases onlyReports exchange after with ⟨event, isReport⟩
      rw [isReport] at isOf
      cases isOf

end Runs

/-- Cycles stop at their boundaries, as long as these are answered by a check of the context. -/
theorem stopsAtBoundaries
    {State : Type}
    {answer : (asked : Request) → State → asked.Reply × State}
    {context : State → CallContext}
    {timeline : State → Timeline}
    (checks :
      ∀ operation state, (answer (.checkpoint operation) state).1 =
        (context state).check (timeline state) operation)
    (controller : Controller)
    (ingress : Ingress)
    (state : State) :
    StopsAtBoundaries answer context timeline controller ingress state := by
  cases named : IngressKey.ofIngress? ingress with
  | none =>
      have refused : controller.reconcile ingress = throw (.invalidIngress "ingress has no name") := by
        rw [reconcile, named]
      constructor
      case stops =>
        intro earlier boundary later step split
        rw [refused] at split
        exact absurd split.symm (List.append_ne_nil_of_right_ne_nil _ (List.cons_ne_nil _ _))
      case isDue =>
        intro key earlier exchange later isNamed
        cases named.symm.trans isNamed
      case handsOn =>
        intro key annotations balancer isNamed
        cases named.symm.trans isNamed
      case passes =>
        intro status succeeds
        rw [refused] at succeeds
        cases succeeds
  | some key =>
      have abides := controller.abides_reconcile named
      have attributes : (controller.reconcile ingress).Attributes (CycleError key) [] :=
        controller.attributes_reconcile named
      constructor
      case stops =>
        intro earlier boundary later step split isBoundary dead
        have member :
            boundary ∈ (ExceptT.run (controller.reconcile ingress)).transcript answer state := by
          rw [split]
          exact List.mem_append_right _ List.mem_cons_self
        have refusal := refusal?_of_not_isLive checks member isBoundary dead
        rcases Program.Attributes.stops_at answer attributes state split refusal with
          ⟨error, fails, owed⟩
        rw [isBoundary] at owed
        have same := owed.unique (.checkpoint step _)
        refine ⟨error, fails, same, ?_, ?_, place_lt_of_refused named split isBoundary refusal⟩
        · rw [same]
          split <;> rfl
        · rw [same]
          rfl
      case isDue =>
        intro other earlier exchange later isNamed split
        cases named.symm.trans isNamed
        exact Program.Abides.rule_of_split answer abides state split
      case handsOn =>
        intro other annotations balancer isNamed ensures exchange member arn handed
        cases named.symm.trans isNamed
        have hasEnsured := hasEnsured_of_run named ensures
        rcases List.append_of_mem member with ⟨earlier, later, split⟩
        have isDue := Program.Abides.rule_of_split answer abides state split
        rcases isDue.handle arn handed with ⟨annotationsToo, ensured, before, rfl⟩
        rw [split, List.map_append] at hasEnsured
        rw [hasEnsured.unique (before.append _)]
      case passes =>
        intro status succeeds step
        have done := Program.Abides.ends_run answer abides state status succeeds
        rcases List.mem_map.mp (done.passed step step.place_lt) with ⟨exchange, member, isPassed⟩
        exact ⟨exchange, member, isPassed⟩

end Controller

/-! ## A context that ends between two steps -/

namespace DeafCloud

/-- A controller that converges attributes itself. -/
def controller : Controller := ⟨.ofConfiguration {}, .direct⟩

/-- An ingress in the default namespace. -/
def ingress : Ingress := ⟨none, some "shop"⟩

/-- A context with a token of its own. -/
def context : CallContext := ⟨⟨[0]⟩, none⟩

/-- The load balancer that the cloud has for the ingress. -/
def balancer : LoadBalancer :=
  .describe "eu-west-1" 7 "shop" .internal .ipv4 ["subnet-1"]

/-- Whoever is called succeeds without a look at the context, which is cancelled while target groups are
converged. -/
def answer : (asked : Request) → Timeline → asked.Reply × Timeline
  | .annotationsOf _, timeline => (.ok {}, timeline)
  | .configuration, timeline => ({}, timeline)
  | .checkpoint operation, timeline => (context.check timeline operation, timeline)
  | .cloud (.findClusterSubnets _), timeline => (.ok ["subnet-1"], timeline)
  | .cloud (.findLoadBalancer _), timeline => (.ok none, timeline)
  | .cloud (.createLoadBalancer _), timeline => (.ok balancer, timeline)
  | .cloud (.readWebAcl _), timeline => (.ok none, timeline)
  | .cloud _, timeline => (.error (.invalidRequest "not expected"), timeline)
  | .collaborator (.convergeTargetGroups _), timeline =>
    (.ok .empty, timeline.cancel context.token)
  | .collaborator (.convergeListeners _ _ _), timeline => (.ok (), timeline)
  | .collaborator (.collectTargetGroups _), timeline => (.ok (), timeline)
  | .collaborator (.convergeSecurityGroups _), timeline => (.ok (), timeline)
  | .collaborator _, timeline => (.error (.text "not expected"), timeline)
  | .report _, timeline => ((), timeline)

end DeafCloud

/-- When the context is cancelled while target groups are converged, the cycle stops before the
listeners. -/
theorem Controller.stopsAtBoundaries_deafCloud :
    (∀ operation timeline, (DeafCloud.answer (.checkpoint operation) timeline).1 =
        DeafCloud.context.check timeline operation) ∧
      StopsAtBoundaries DeafCloud.answer (fun _ => DeafCloud.context) id DeafCloud.controller
        DeafCloud.ingress ⟨0, [], 1⟩ ∧
      ((ExceptT.run (DeafCloud.controller.reconcile DeafCloud.ingress)).run DeafCloud.answer
          ⟨0, [], 1⟩).1 =
        .error (.dependentResource .listeners (.cloud (.cancelled "listeners"))) := by
  have checks (operation : String) (timeline : Timeline) :
      (DeafCloud.answer (.checkpoint operation) timeline).1 =
        DeafCloud.context.check timeline operation := rfl
  exact ⟨checks, stopsAtBoundaries checks DeafCloud.controller DeafCloud.ingress _, rfl⟩

end IngressConvergence
