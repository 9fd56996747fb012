import IngressConvergence.Convergence.Removal
import IngressConvergence.Proofs.Attribution
import IngressConvergence.Proofs.Error.Source

/-!
# What cycles and removals owe to a refusal

The same call of the cloud can fail in more than one place of a cycle, and every place has an error of
its own.  `Controller.CycleError` and `Controller.RemovalError` list the places.  Every stage of a cycle,
and with them a cycle and a removal as a whole, attribute their failures accordingly; the main statements
are `Controller.attributes_reconcile` and `Controller.attributes_delete`.
-/

namespace IngressConvergence

/-! ## The errors that are owed -/

/-- The step of a cycle in which a collaborator is called. -/
def CollaboratorCall.dependentStep? : CollaboratorCall → Option DependentStep
  | .convergeAttributes _ _ => some .attributes
  | .convergeTargetGroups _ => some .targetGroups
  | .convergeListeners _ _ _ => some .listeners
  | .collectTargetGroups _ => some .targetGroupCollection
  | .convergeSecurityGroups _ => some .securityGroups
  | _ => none

/-- The step of a removal in which a collaborator is called. -/
def CollaboratorCall.teardownStep? : CollaboratorCall → Option TeardownStep
  | .deleteSecurityGroups _ => some .securityGroups
  | .deleteListeners _ => some .listeners
  | .deleteTargetGroups _ => some .targetGroups
  | _ => none

theorem DependentStep.label_injective
    {step other : DependentStep}
    (same : step.label = other.label) :
    step = other := by
  cases step <;> cases other <;> first | rfl | exact absurd same (by decide)

/-- How the load balancer of a cycle stands, by the latest answer that tells of it. -/
inductive Standing where
  | absent
  | found (current : LoadBalancer)
  | deleted (arn : String)

/-- How a load balancer stands by the reply to a request, if that tells it. -/
def Request.standing? : (asked : Request) → asked.Reply → Option Standing
  | .cloud (.findLoadBalancer _), .ok none => some .absent
  | .cloud (.findLoadBalancer _), .ok (some current) => some (.found current)
  | .cloud (.deleteLoadBalancer arn), .ok () => some (.deleted arn)
  | _, _ => none

namespace Answered

/-- How a load balancer stands by an answer, if that tells it. -/
def standing? (answered : Answered) : Option Standing :=
  answered.asked.standing? answered.reply

/-- A report tells nothing of the load balancer. -/
theorem latest_standing?_report
    (past : List Answered)
    (event : Event) :
    latest standing? (past ++ [⟨.report event, ()⟩]) = latest standing? past :=
  latest_of_none rfl

/-- The load balancer whose firewall policy was read. -/
def webAclRead? : Answered → Option String
  | ⟨.cloud (.readWebAcl arn), _⟩ => some arn
  | _ => none

end Answered

namespace Controller

open Answered (latest standing? webAclRead?)

/-- The error with which a cycle for an ingress fails when, after all that was answered, a request is
refused for a cause. -/
inductive CycleError
    (key : IngressKey)
    (past : List Answered) :
    Request → Cause → ControllerError → Prop where
  | annotations
      (cause : Cause) :
      CycleError key past (.annotationsOf key) cause (.store key.text cause)
  | annotatedSubnets
      (names : List String)
      (error : CloudError) :
      CycleError key past (.cloud (.findSubnets names)) (.cloud error)
        (.configBuild key.text (.referenceLookup .subnet error))
  | clusterSubnets
      (scheme : Scheme)
      (error : CloudError) :
      CycleError key past (.cloud (.findClusterSubnets scheme)) (.cloud error)
        (.configBuild key.text (.referenceLookup .subnet error))
  | lookup
      (name : String)
      (error : CloudError) :
      CycleError key past (.cloud (.findLoadBalancer name)) (.cloud error) (.lookup name error)
  | creation
      (absent : latest standing? past = some .absent)
      (request : CreateRequest)
      (error : CloudError) :
      CycleError key past (.cloud (.createLoadBalancer request)) (.cloud error)
        (.provision request.name .create error)
  | deletion
      {current : LoadBalancer}
      (found : latest standing? past = some (.found current))
      (error : CloudError) :
      CycleError key past (.cloud (.deleteLoadBalancer current.arn)) (.cloud error)
        (.provision current.name .deleteForRecreation error)
  | recreation
      {arn : String}
      (deleted : latest standing? past = some (.deleted arn))
      (request : CreateRequest)
      (error : CloudError) :
      CycleError key past (.cloud (.createLoadBalancer request)) (.cloud error)
        (.recreation request.name arn error)
  | ipAddressType
      (arn : String)
      (ipAddressType : IpAddressType)
      (error : CloudError) :
      CycleError key past (.cloud (.setIpAddressType arn ipAddressType)) (.cloud error)
        (.attributeUpdate arn .ipAddressType error)
  | subnets
      (arn : String)
      (subnets : List String)
      (error : CloudError) :
      CycleError key past (.cloud (.setSubnets arn subnets)) (.cloud error)
        (.attributeUpdate arn .subnets error)
  | checkpoint
      (step : DependentStep)
      (error : CloudError) :
      CycleError key past (.checkpoint step.label) (.cloud error)
        (.dependentResource step (.cloud error))
  | attributesRead
      (arn : String)
      (error : CloudError) :
      CycleError key past (.cloud (.readAttributes arn)) (.cloud error)
        (.dependentResource .attributes (.cloud error))
  | attributesChange
      (arn : String)
      (attributes : Table String)
      (error : CloudError) :
      CycleError key past (.cloud (.modifyAttributes arn attributes)) (.cloud error)
        (.dependentResource .attributes (.cloud error))
  | webAclRead
      (arn : String)
      (error : CloudError) :
      CycleError key past (.cloud (.readWebAcl arn)) (.cloud error)
        (.dependentResource .webAcl (.controller (.webAcl arn .get error)))
  | webAclCheck
      {arn : String}
      (read : latest webAclRead? past = some arn)
      (webAclId : String)
      (error : CloudError) :
      CycleError key past (.cloud (.checkWebAcl webAclId)) (.cloud error)
        (.dependentResource .webAcl (.controller (.webAcl arn .check error)))
  | webAclAssociation
      (arn webAclId : String)
      (error : CloudError) :
      CycleError key past (.cloud (.associateWebAcl arn webAclId)) (.cloud error)
        (.dependentResource .webAcl (.controller (.webAcl arn .associate error)))
  | webAclDisassociation
      (arn : String)
      (error : CloudError) :
      CycleError key past (.cloud (.disassociateWebAcl arn)) (.cloud error)
        (.dependentResource .webAcl (.controller (.webAcl arn .disassociate error)))
  | securityGroups
      (names : List String)
      (error : CloudError) :
      CycleError key past (.cloud (.findSecurityGroups names)) (.cloud error)
        (.dependentResource .securityGroups
          (.controller (.referenceLookup .securityGroup error)))
  | collaborator
      {call : CollaboratorCall}
      {step : DependentStep}
      (isOf : call.dependentStep? = some step)
      (cause : Cause) :
      CycleError key past (.collaborator call) cause (.dependentResource step cause)

/-- The error with which a removal fails when a request is refused for a cause. -/
inductive RemovalError : Request → Cause → ControllerError → Prop where
  | lookup
      (name : String)
      (error : CloudError) :
      RemovalError (.cloud (.findLoadBalancer name)) (.cloud error) (.lookup name error)
  | collaborator
      {call : CollaboratorCall}
      {step : TeardownStep}
      (isOf : call.teardownStep? = some step)
      (cause : Cause) :
      RemovalError (.collaborator call) cause (.teardown step cause)
  | deletion
      (arn : String)
      (error : CloudError) :
      RemovalError (.cloud (.deleteLoadBalancer arn)) (.cloud error)
        (.teardown .loadBalancer (.cloud error))

/-- Whatever a cycle owes to a refusal wraps its cause. -/
theorem CycleError.wraps
    {key : IngressKey}
    {past : List Answered}
    {asked : Request}
    {cause : Cause}
    {error : ControllerError}
    (owed : CycleError key past asked cause error) :
    error.Wraps cause := by
  cases owed with
  | annotatedSubnets names error => exact .through rfl (.directly rfl)
  | clusterSubnets scheme error => exact .through rfl (.directly rfl)
  | webAclRead arn error => exact .through rfl (.directly rfl)
  | webAclCheck read webAclId error => exact .through rfl (.directly rfl)
  | webAclAssociation arn webAclId error => exact .through rfl (.directly rfl)
  | webAclDisassociation arn error => exact .through rfl (.directly rfl)
  | securityGroups names error => exact .through rfl (.directly rfl)
  | _ => exact .directly rfl

/-- No more than one error is owed to a refusal. -/
theorem CycleError.unique
    {key : IngressKey}
    {past : List Answered}
    {asked : Request}
    {cause : Cause}
    {error other : ControllerError}
    (owed : CycleError key past asked cause error)
    (owedToo : CycleError key past asked cause other) :
    error = other := by
  cases owed with
  | creation absent request error =>
      cases owedToo with
      | creation => rfl
      | recreation deleted => cases absent.symm.trans deleted
  | recreation deleted request error =>
      cases owedToo with
      | creation absent => cases absent.symm.trans deleted
      | recreation deletedToo =>
          cases deleted.symm.trans deletedToo
          rfl
  | @deletion current found error =>
      generalize isCurrent : current.arn = arn at owedToo
      cases owedToo with
      | deletion foundToo =>
          cases found.symm.trans foundToo
          rfl
  | checkpoint step error =>
      generalize isLabel : step.label = label at owedToo
      cases owedToo with
      | checkpoint => rw [DependentStep.label_injective isLabel]
  | webAclCheck read webAclId error =>
      cases owedToo with
      | webAclCheck readToo =>
          cases read.symm.trans readToo
          rfl
  | collaborator isOf cause =>
      cases owedToo with
      | collaborator isOfToo =>
          cases isOf.symm.trans isOfToo
          rfl
  | _ =>
      cases owedToo
      rfl

/-- One refused request leads to one error of a removal. -/
theorem RemovalError.unique
    {asked : Request}
    {cause : Cause}
    {error other : ControllerError}
    (owed : RemovalError asked cause error)
    (owedToo : RemovalError asked cause other) :
    error = other := by
  cases owed with
  | collaborator isOf cause =>
      cases owedToo with
      | collaborator isOfToo =>
          cases isOf.symm.trans isOfToo
          rfl
  | _ =>
      cases owedToo
      rfl

theorem RemovalError.wraps
    {asked : Request}
    {cause : Cause}
    {error : ControllerError}
    (owed : RemovalError asked cause error) :
    error.Wraps cause := by
  cases owed with
  | _ => exact .directly rfl

end Controller

open Answered (latest latest_of_some latest_standing?_report standing? webAclRead?)
open Controller (CycleError RemovalError)

variable {key : IngressKey} {past : List Answered}

/-! ## The desired state -/

namespace DesiredState

/-- Names of security groups take one lookup, whose groups settle the list. -/
theorem resolveSecurityGroups_eq
    (items : List String) :
    resolveSecurityGroups items =
      if (Reference.names .securityGroup items).isEmpty then
        ExceptT.mk (.done (.ok items))
      else
        Attempt.cloud (.findSecurityGroups (Reference.names .securityGroup items))
            (.referenceLookup .securityGroup) >>=
          fun groups : List SecurityGroup =>
            ExceptT.mk (.done (Reference.settle .securityGroup items
              (groups.map fun group => ⟨group.groupId, some group.groupName⟩))) := by
  rw [resolveSecurityGroups, Reference.resolve]
  split
  · rfl
  · refine congrArg (Program.request _) (funext fun reply => ?_)
    cases reply with
    | ok groups => rfl
    | error error => rfl

/-- Names of subnets take one lookup, which tells their identifiers only. -/
theorem resolveAnnotatedSubnets_eq
    (items : List String) :
    resolveAnnotatedSubnets items =
      if (Reference.names .subnet items).isEmpty then
        ExceptT.mk (.done (.ok items))
      else
        Attempt.cloud (.findSubnets (Reference.names .subnet items)) (.referenceLookup .subnet) >>=
          fun ids : List String =>
            ExceptT.mk (.done (Reference.settle .subnet items (ids.map fun id => ⟨id, none⟩))) := by
  rw [resolveAnnotatedSubnets, Reference.resolve]
  split
  · rfl
  · refine congrArg (Program.request _) (funext fun reply => ?_)
    cases reply with
    | ok ids => rfl
    | error error => rfl

/-- Lookups of subnets fail as they do in the building of a configuration. -/
theorem attributes_resolveSubnets
    (items : List String)
    (scheme : Scheme) :
    (resolveSubnets items scheme).Attributes
      (fun past asked cause error => CycleError key past asked cause (.configBuild key.text error))
      past := by
  rw [resolveSubnets]
  refine .ite ?_ ?_
  · exact .bind (.cloud (.clusterSubnets scheme)) fun past subnets => .pure _
  · refine .bind ?_ fun past subnets => .pure _
    rw [resolveAnnotatedSubnets_eq]
    refine .ite (.ofExcept _) ?_
    exact .bind (.cloud (.annotatedSubnets _)) fun past ids => .ofExcept _

theorem attributes_build
    (policy : NamingPolicy)
    (annotations : IngressAnnotations) :
    (build policy key annotations).Attributes (CycleError key) past := by
  rw [build]
  exact .bind (.mapFailure (attributes_resolveSubnets _ _)) fun past subnets => .pure _

end DesiredState

/-! ## The load balancer and what is attached to it -/

namespace Convergence

theorem attributes_createInstance
    (absent : latest standing? past = some .absent)
    (desired : DesiredState) :
    (createInstance desired).Attributes (CycleError key) past := by
  rw [createInstance]
  apply Attempt.Attributes.report_bind
  rw [← latest_standing?_report past] at absent
  refine .bind (.cloud (.creation absent _)) fun past created => ?_
  exact .report_bind (.pure _)

/-- A load balancer is created anew only after the deletion of the one that was found. -/
theorem attributes_recreateInstance
    {current : LoadBalancer}
    (found : latest standing? past = some (.found current))
    (desired : DesiredState) :
    (recreateInstance current desired).Attributes (CycleError key) past := by
  rw [recreateInstance]
  apply Attempt.Attributes.report_bind
  rw [← latest_standing?_report past] at found
  refine .cloud_bind (.deletion found) fun answer => ?_
  apply Attempt.Attributes.report_bind
  apply Attempt.Attributes.mapFailure
  apply Attempt.Attributes.reporting
  refine .cloud (.recreation ?_ desired.createRequest)
  exact (latest_standing?_report _ _).trans (latest_of_some rfl)

theorem attributes_patchIpAddressType
    (current : LoadBalancer)
    (desired : DesiredState) :
    (patchIpAddressType current desired).Attributes (CycleError key) past := by
  rw [patchIpAddressType]
  exact .ite (.report_bind (.cloud (.ipAddressType _ _))) (.pure _)

theorem attributes_patchSubnets
    (current : LoadBalancer)
    (desired : DesiredState) :
    (patchSubnets current desired).Attributes (CycleError key) past := by
  rw [patchSubnets]
  exact .ite (.report_bind (.cloud (.subnets _ _))) (.pure _)

/-- What follows the lookup goes by what was found. -/
theorem attributes_ensureInstance
    (desired : DesiredState) :
    (ensureInstance desired).Attributes (CycleError key) past := by
  rw [ensureInstance]
  refine .cloud_bind (.lookup _) ?_
  rintro (_ | current)
  · exact attributes_createInstance (latest_of_some rfl) desired
  · refine .ite (attributes_recreateInstance (latest_of_some rfl) desired) ?_
    refine .bind (attributes_patchIpAddressType current desired) fun past _ => ?_
    exact .bind (attributes_patchSubnets current desired) fun past _ => .pure _

/-- Calls for attributes fail as the step of the attributes does. -/
theorem attributes_convergeAttributes
    (arn : String)
    (desired : Table String) :
    (convergeAttributes arn desired).Attributes
      (fun past asked cause failure =>
        CycleError key past asked cause (.dependentResource .attributes failure))
      past := by
  rw [convergeAttributes]
  refine .ite ?_ (.pure _)
  refine .bind (.cloud (.attributesRead arn)) fun past current => ?_
  exact .ite (.report_bind (.cloud (.attributesChange arn _))) (.pure _)

/-- Calls for the firewall policy fail as the step of the firewall policy does. -/
theorem attributes_convergeWebAcl
    (arn : String)
    (desired : Option String) :
    (convergeWebAcl arn desired).Attributes
      (fun past asked cause error =>
        CycleError key past asked cause (.dependentResource .webAcl (.controller error)))
      past := by
  have carryOut (past : List Answered) (plan : WebAclPlan) :
      (carryOut arn plan).Attributes
        (fun past asked cause error =>
          CycleError key past asked cause (.dependentResource .webAcl (.controller error)))
        past := by
    cases plan with
    | keep => exact .pure _
    | associate webAclId => exact .report_bind (.cloud (.webAclAssociation arn webAclId))
    | disassociate => exact .report_bind (.cloud (.webAclDisassociation arn))
  rw [convergeWebAcl]
  refine .cloud_bind (.webAclRead arn) fun current => ?_
  cases desired with
  | none => exact carryOut _ _
  | some webAclId =>
      refine .bind ?_ fun past _ => carryOut _ _
      rw [requireWebAcl]
      refine .bind (.cloud (.webAclCheck (latest_of_some rfl) webAclId)) fun past known => ?_
      exact .ite (.throw _) (.pure _)

end Convergence

/-! ## The cycle -/

namespace Controller

variable {Failure Value : Type}

/-- The failure of a step is owed to what was refused in the step, or to the checkpoint before it. -/
theorem attributes_takeStep
    (step : DependentStep)
    {toCause : Failure → Cause}
    {attempt : Attempt Failure Value}
    (attributes :
      ∀ past, attempt.Attributes
        (fun past asked cause failure =>
          CycleError key past asked cause (.dependentResource step (toCause failure)))
        past) :
    (takeStep step toCause attempt).Attributes (CycleError key) past := by
  rw [takeStep]
  exact .bind (.checkpoint (.checkpoint step)) fun past _ => .mapFailure (attributes past)

theorem attributes_takeStep_collaborator
    {step : DependentStep}
    {call : CollaboratorCall}
    (isOf : call.dependentStep? = some step) :
    (takeStep step id (Attempt.collaborator call id)).Attributes (CycleError key) past :=
  attributes_takeStep step fun _ => .collaborator (.collaborator isOf)

theorem attributes_attributesStep
    (controller : Controller)
    (arn : String)
    (desired : Table String) :
    (controller.attributesStep arn desired).Attributes
      (fun past asked cause failure =>
        CycleError key past asked cause (.dependentResource .attributes failure))
      past := by
  rw [attributesStep]
  split
  · exact Convergence.attributes_convergeAttributes arn desired
  · exact .collaborator (.collaborator rfl)

theorem attributes_securityGroupsStep
    (annotations : LoadBalancerAnnotations)
    (balancer : LoadBalancer)
    (targetGroups : TargetGroupSet) :
    (securityGroupsStep key annotations balancer targetGroups).Attributes
      (fun past asked cause failure =>
        CycleError key past asked cause (.dependentResource .securityGroups failure))
      past := by
  rw [securityGroupsStep]
  refine .bind (.mapFailure ?_) fun past groups => .collaborator (.collaborator rfl)
  rw [DesiredState.resolveSecurityGroups_eq]
  refine .ite (.ofExcept _) ?_
  exact .bind (.cloud (.securityGroups _)) fun past groups => .ofExcept _

theorem attributes_convergeDependents
    (controller : Controller)
    (ingress : Ingress)
    (annotations : LoadBalancerAnnotations)
    (balancer : LoadBalancer) :
    (controller.convergeDependents key ingress annotations balancer).Attributes (CycleError key)
      past := by
  rw [convergeDependents]
  refine .bind ?_ fun _ _ => .bind ?_ fun _ _ => .bind ?_ fun _ targetGroups =>
    .bind ?_ fun _ _ => .bind ?_ fun _ _ => ?_
  · exact attributes_takeStep _ fun past => controller.attributes_attributesStep _ _
  · exact attributes_takeStep _ fun past => Convergence.attributes_convergeWebAcl _ _
  · exact attributes_takeStep_collaborator rfl
  · exact attributes_takeStep_collaborator rfl
  · exact attributes_takeStep_collaborator rfl
  · exact attributes_takeStep _ fun past => attributes_securityGroupsStep _ _ _

theorem attributes_requireAllowed
    (desired : DesiredState) :
    (requireAllowed key desired).Attributes (CycleError key) past := by
  rw [requireAllowed]
  exact .bind .configuration fun _ configuration => .ofExcept _

theorem attributes_converge
    (controller : Controller)
    (ingress : Ingress) :
    (controller.converge key ingress).Attributes (CycleError key) past := by
  rw [converge]
  refine .bind (.annotationsOf .annotations) fun past annotations => ?_
  refine .bind (DesiredState.attributes_build _ _) fun past desired => ?_
  refine .bind (attributes_requireAllowed _) fun past _ => ?_
  refine .bind (Convergence.attributes_ensureInstance _) fun past balancer => ?_
  exact .bind (controller.attributes_convergeDependents _ _ _) fun past _ => .pure _

/-- A cycle fails with the error that is owed to the first refused request. -/
theorem attributes_reconcile
    (controller : Controller)
    {ingress : Ingress}
    (named : IngressKey.ofIngress? ingress = some key) :
    (controller.reconcile ingress).Attributes (CycleError key) past := by
  rw [reconcile, named]
  exact .report_bind ((controller.attributes_converge _).reporting _)

/-! ## The removal -/

theorem attributes_teardown
    (balancer : LoadBalancer) :
    (teardown key balancer).Attributes (fun _ => RemovalError) past := by
  rw [teardown]
  refine .bind (.collaborator (.collaborator rfl)) fun past _ => ?_
  refine .bind (.collaborator (.collaborator rfl)) fun past _ => ?_
  refine .bind (.collaborator (.collaborator rfl)) fun past _ => ?_
  apply Attempt.Attributes.report_bind
  exact .bind (.cloud (.deletion _)) fun past _ => .report _

/-- A removal fails with the error that is owed to the first refused request. -/
theorem attributes_delete
    (controller : Controller)
    (key : IngressKey) :
    (controller.delete key).Attributes (fun _ => RemovalError) past := by
  rw [delete]
  refine .bind (.cloud (.lookup _)) ?_
  rintro past (_ | balancer)
  · exact .report _
  · exact (attributes_teardown balancer).reporting _

end Controller

end IngressConvergence
