import IngressConvergence.Convergence.Cycle
import IngressConvergence.Proofs.Stage.Attachments
import IngressConvergence.Proofs.Stage.Inventory

/-!
# The steps that follow the load balancer

Of the six steps only the first two touch the tables, and each of them only its own.  The steps are
taken if the load balancer exists, its firewall policy is known and its security groups are resolved;
if the load balancer has already what is attached to it, they change nothing.
-/

namespace IngressConvergence

/-- A load balancer has the attributes and the firewall policy that are annotated.  Attributes that a
collaborator converges are not asked about. -/
structure CloudTables.HasAttachments
    (tables : CloudTables)
    (route : AttributeRoute)
    (annotations : LoadBalancerAnnotations)
    (arn : String) : Prop where
  attributes : route = .direct → tables.CarriesAttributes arn annotations.attributes
  webAcl : tables.associationOf arn = annotations.webAclId

namespace Controller

variable {Failure Value : Type} {calm after : CalmWorld} {done : Unit}

/-! ## Single steps -/

/-- In a calm world a step yields what its attempt yields. -/
theorem yields_takeStep_iff
    {step : DependentStep}
    {toCause : Failure → Cause}
    {attempt : Attempt Failure Value}
    {value : Value} :
    calm.Yields (takeStep step toCause attempt) value after ↔
      calm.Yields attempt value after := by
  apply CalmWorld.yields_bind_iff.trans
  constructor
  · rintro ⟨started, middle, checks, steps⟩
    rw [CalmWorld.yields_checkpoint_iff.mp checks] at steps
    exact CalmWorld.yields_mapFailure_iff.mp steps
  · intro yields
    exact ⟨(), calm, CalmWorld.yields_checkpoint_iff.mpr rfl,
      CalmWorld.yields_mapFailure_iff.mpr yields⟩

theorem yields_collaboratorStep_bind_iff
    {step : DependentStep}
    {call : CollaboratorCall}
    {next : call.Answer → Attempt ControllerError Value}
    {value : Value} :
    calm.Yields (takeStep step id (Attempt.collaborator call id) >>= next) value after ↔
      (calm.recording (.collaborator call)).Yields (next (calm.answers call)) value after := by
  apply CalmWorld.yields_bind_iff.trans
  constructor
  · rintro ⟨answer, middle, steps, rest⟩
    rcases CalmWorld.yields_collaborator_iff.mp (yields_takeStep_iff.mp steps) with ⟨rfl, rfl⟩
    exact rest
  · intro rest
    exact ⟨_, _, yields_takeStep_iff.mpr (CalmWorld.yields_collaborator_iff.mpr ⟨rfl, rfl⟩), rest⟩

/-- Once the attributes step is taken, attributes that are converged directly are carried, and nothing
else has changed. -/
theorem carriesAttributes_of_yields_attributesStep
    {controller : Controller}
    {arn : String}
    {desired : Table String}
    (yields : calm.Yields (controller.attributesStep arn desired) done after) :
    (controller.attributeRoute = .direct → after.tables.CarriesAttributes arn desired) ∧
      after.tables.loadBalancers = calm.tables.loadBalancers := by
  rw [attributesStep] at yields
  cases route : controller.attributeRoute with
  | direct =>
      rw [route] at yields
      rcases Convergence.carriesAttributes_of_yields yields with ⟨carries, same, -⟩
      exact ⟨fun _ => carries, same⟩
  | delegated =>
      rw [route] at yields
      rcases CalmWorld.yields_collaborator_iff.mp yields with ⟨-, rfl⟩
      refine ⟨?_, rfl⟩
      intro direct
      cases direct

theorem yields_attributesStep
    (controller : Controller)
    {arn : String}
    (exist : calm.tables.loadBalancers.contains arn = true)
    (desired : Table String) :
    ∃ after, calm.Yields (controller.attributesStep arn desired) () after ∧
      ((controller.attributeRoute = .direct → calm.tables.CarriesAttributes arn desired) →
        calm.Untouched after) := by
  rw [attributesStep]
  cases controller.attributeRoute with
  | direct =>
      rcases Convergence.yields_convergeAttributes exist desired with ⟨after, yields, untouched⟩
      exact ⟨after, yields, fun carries => untouched (carries rfl)⟩
  | delegated =>
      refine ⟨_, CalmWorld.yields_collaborator_iff.mpr ⟨rfl, rfl⟩, fun _ => ?_⟩
      exact .recording calm rfl

/-- The last step is taken exactly if the security groups are resolved. -/
theorem yields_securityGroupsStep_iff
    {key : IngressKey}
    {annotations : LoadBalancerAnnotations}
    {balancer : LoadBalancer}
    {targetGroups : TargetGroupSet} :
    calm.Yields (securityGroupsStep key annotations balancer targetGroups) done after ↔
      ∃ groups middle,
        calm.Yields (DesiredState.resolveSecurityGroups annotations.securityGroups) groups middle ∧
          after =
            middle.recording (.collaborator (.convergeSecurityGroups
              (associationOf key annotations balancer groups targetGroups))) := by
  apply CalmWorld.yields_bind_iff.trans
  constructor
  · rintro ⟨groups, middle, resolves, attaches⟩
    exact ⟨groups, middle, CalmWorld.yields_mapFailure_iff.mp resolves,
      (CalmWorld.yields_collaborator_iff.mp attaches).2⟩
  · rintro ⟨groups, middle, resolves, rfl⟩
    exact ⟨groups, middle, CalmWorld.yields_mapFailure_iff.mpr resolves,
      CalmWorld.yields_collaborator_iff.mpr ⟨rfl, rfl⟩⟩

theorem untouched_of_yields_securityGroupsStep
    {key : IngressKey}
    {annotations : LoadBalancerAnnotations}
    {balancer : LoadBalancer}
    {targetGroups : TargetGroupSet}
    (yields : calm.Yields (securityGroupsStep key annotations balancer targetGroups) done after) :
    calm.Untouched after := by
  rcases yields_securityGroupsStep_iff.mp yields with ⟨groups, middle, resolves, rfl⟩
  have reads := DesiredState.readsInventory_resolveSecurityGroups annotations.securityGroups
  exact (reads.untouched resolves).trans (.recording middle rfl)

/-! ## All steps -/

variable {controller : Controller} {key : IngressKey} {ingress : Ingress}
  {annotations : LoadBalancerAnnotations} {balancer : LoadBalancer}

/-- The four steps that are left to collaborators. -/
def delegatedSteps
    (key : IngressKey)
    (ingress : Ingress)
    (annotations : LoadBalancerAnnotations)
    (balancer : LoadBalancer) : Attempt ControllerError Unit :=
  takeStep .targetGroups id (Attempt.collaborator (.convergeTargetGroups ingress) id) >>=
    fun targetGroups : TargetGroupSet =>
      takeStep .listeners id
          (Attempt.collaborator (.convergeListeners balancer.arn ingress targetGroups) id) >>=
        fun _ =>
          takeStep .targetGroupCollection id
              (Attempt.collaborator (.collectTargetGroups targetGroups) id) >>=
            fun _ =>
              takeStep .securityGroups id (securityGroupsStep key annotations balancer targetGroups)

/-- The world after target groups and listeners were converged, before security groups are. -/
def beforeSecurityGroups
    (calm : CalmWorld)
    (ingress : Ingress)
    (balancer : LoadBalancer) : CalmWorld :=
  let targetGroups : TargetGroupSet := calm.answers (.convergeTargetGroups ingress)
  ((calm.recording (.collaborator (.convergeTargetGroups ingress))).recording
    (.collaborator (.convergeListeners balancer.arn ingress targetGroups))).recording
      (.collaborator (.collectTargetGroups targetGroups))

theorem untouched_beforeSecurityGroups
    (calm : CalmWorld)
    (ingress : Ingress)
    (balancer : LoadBalancer) :
    calm.Untouched (beforeSecurityGroups calm ingress balancer) :=
  (CalmWorld.Untouched.recording calm rfl).trans
    ((CalmWorld.Untouched.recording _ rfl).trans (.recording _ rfl))

theorem yields_delegatedSteps_iff :
    calm.Yields (delegatedSteps key ingress annotations balancer) done after ↔
      (beforeSecurityGroups calm ingress balancer).Yields
        (securityGroupsStep key annotations balancer
          (calm.answers (.convergeTargetGroups ingress))) done after := by
  apply yields_collaboratorStep_bind_iff.trans
  apply yields_collaboratorStep_bind_iff.trans
  exact yields_collaboratorStep_bind_iff.trans yields_takeStep_iff

/-- The steps that are left to collaborators change nothing in the cloud, and security groups are
resolved in them. -/
theorem untouched_of_yields_delegatedSteps
    (yields : calm.Yields (delegatedSteps key ingress annotations balancer) done after) :
    calm.Untouched after ∧
      ∃ groups middle,
        calm.Yields (DesiredState.resolveSecurityGroups annotations.securityGroups) groups
          middle := by
  have last := yields_delegatedSteps_iff.mp yields
  have untouched := untouched_beforeSecurityGroups calm ingress balancer
  refine ⟨untouched.trans (untouched_of_yields_securityGroupsStep last), ?_⟩
  rcases yields_securityGroupsStep_iff.mp last with ⟨groups, middle, resolves, -⟩
  have reads := DesiredState.readsInventory_resolveSecurityGroups annotations.securityGroups
  exact ⟨groups, reads.transport calm untouched.sameInventory.symm resolves⟩

/-- The steps that are left to collaborators are taken where security groups are resolved. -/
theorem yields_delegatedSteps
    {groups : List String}
    {middle : CalmWorld}
    (resolves :
      calm.Yields (DesiredState.resolveSecurityGroups annotations.securityGroups) groups middle)
    (key : IngressKey)
    (ingress : Ingress)
    (balancer : LoadBalancer) :
    ∃ after, calm.Yields (delegatedSteps key ingress annotations balancer) () after := by
  have reads := DesiredState.readsInventory_resolveSecurityGroups annotations.securityGroups
  have untouched := untouched_beforeSecurityGroups calm ingress balancer
  rcases reads.transport _ untouched.sameInventory resolves with ⟨resolved, resolvesLast⟩
  exact ⟨_, yields_delegatedSteps_iff.mpr
    (yields_securityGroupsStep_iff.mpr ⟨groups, resolved, resolvesLast, rfl⟩)⟩

/-- The steps are the attributes, the firewall policy, and those that are left to collaborators. -/
theorem convergeDependents_eq :
    controller.convergeDependents key ingress annotations balancer =
      takeStep .attributes id (controller.attributesStep balancer.arn annotations.attributes) >>=
        fun _ =>
          takeStep .webAcl .controller
              (Convergence.convergeWebAcl balancer.arn annotations.webAclId) >>=
            fun _ => delegatedSteps key ingress annotations balancer := rfl

/-- Once the steps are taken, the load balancer has what is attached to it; the firewall policy was
known, security groups were resolved, and load balancers are what they were. -/
theorem hasAttachments_of_yields
    (yields :
      calm.Yields (controller.convergeDependents key ingress annotations balancer) done after) :
    after.tables.HasAttachments controller.attributeRoute annotations balancer.arn ∧
      after.tables.loadBalancers = calm.tables.loadBalancers ∧
        Convergence.IsKnown calm.tables annotations.webAclId ∧
          ∃ groups middle,
            calm.Yields (DesiredState.resolveSecurityGroups annotations.securityGroups) groups
              middle := by
  rw [convergeDependents_eq] at yields
  rcases CalmWorld.yields_bind_iff.mp yields with ⟨first, attributed, takesFirst, rest⟩
  rcases CalmWorld.yields_bind_iff.mp rest with ⟨second, guarded, takesSecond, delegated⟩
  have attributes := yields_takeStep_iff.mp takesFirst
  have firewall := yields_takeStep_iff.mp takesSecond
  have kept := attributes.keeps.inventory
  rcases carriesAttributes_of_yields_attributesStep attributes with ⟨carries, sameFirst⟩
  rcases Convergence.associationOf_of_yields firewall with
    ⟨associated, isKnown, sameSecond, sameAttributes⟩
  rcases untouched_of_yields_delegatedSteps delegated with ⟨untouched, groups, middle, resolves⟩
  have reads := DesiredState.readsInventory_resolveSecurityGroups annotations.securityGroups
  have same := (kept.trans firewall.keeps.inventory).symm
  refine ⟨⟨?_, ?_⟩, ?_, ?_, groups, reads.transport calm same resolves⟩
  · intro direct name value wanted
    rw [CloudTables.attributesOf, untouched.tables, sameAttributes]
    exact carries direct name value wanted
  · rw [untouched.tables]
    exact associated
  · rw [untouched.tables, sameSecond, sameFirst]
  · intro webAclId wanted
    rw [← kept.webAcls]
    exact isKnown webAclId wanted

/-- The steps can be taken for a load balancer that exists, if its firewall policy is known and
security groups are resolved; nothing changes if it has already what is attached to it. -/
theorem yields_convergeDependents
    {groups : List String}
    {middle : CalmWorld}
    (exist : calm.tables.loadBalancers.contains balancer.arn = true)
    (isKnown : Convergence.IsKnown calm.tables annotations.webAclId)
    (resolves :
      calm.Yields (DesiredState.resolveSecurityGroups annotations.securityGroups) groups middle) :
    ∃ after,
      calm.Yields (controller.convergeDependents key ingress annotations balancer) () after ∧
        (calm.tables.HasAttachments controller.attributeRoute annotations balancer.arn →
          calm.Untouched after) := by
  rcases controller.yields_attributesStep exist annotations.attributes with
    ⟨attributed, attributes, attributesSpared⟩
  have kept := attributes.keeps.inventory
  have stillKnown : Convergence.IsKnown attributed.tables annotations.webAclId := by
    intro webAclId wanted
    rw [kept.webAcls]
    exact isKnown webAclId wanted
  rcases Convergence.yields_convergeWebAcl stillKnown balancer.arn with
    ⟨guarded, firewall, firewallSpared⟩
  have reads := DesiredState.readsInventory_resolveSecurityGroups annotations.securityGroups
  rcases reads.transport guarded (kept.trans firewall.keeps.inventory) resolves with
    ⟨resolved, resolvesAgain⟩
  rcases yields_delegatedSteps resolvesAgain key ingress balancer with ⟨after, delegated⟩
  refine ⟨after, ?_, ?_⟩
  · rw [convergeDependents_eq]
    refine CalmWorld.yields_bind_iff.mpr ⟨(), attributed, yields_takeStep_iff.mpr attributes, ?_⟩
    exact CalmWorld.yields_bind_iff.mpr ⟨(), guarded, yields_takeStep_iff.mpr firewall, delegated⟩
  · intro attached
    have spared := attributesSpared attached.attributes
    have sameAssociation : attributed.tables.associationOf balancer.arn = annotations.webAclId := by
      rw [spared.tables]
      exact attached.webAcl
    exact (spared.trans (firewallSpared sameAssociation)).trans
      (untouched_of_yields_delegatedSteps delegated).1

end Controller

end IngressConvergence
