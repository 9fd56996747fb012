import IngressConvergence.Convergence.Removal
import IngressConvergence.Proofs.FailFast.Cycle
import IngressConvergence.Proofs.Likeness

/-!
# Cycles go on alike

Every stage of a cycle passes handles and host names on without looking at them, and reaches no load
balancer but the one it found by its name or created.  A cycle and a removal are therefore alike to
themselves under every likeness for their name that permits what the configuration allows.  The main
statements are `Controller.alike_reconcile` and `Controller.alike_delete`.
-/

namespace IngressConvergence

variable {likeness : Likeness}

/-- In place of an equation for every field: load balancers that are the same but for their identities
have all else in common. -/
theorem Likeness.SameBalancer.exists_eq
    {balancer balancer' : LoadBalancer}
    (same : likeness.SameBalancer balancer balancer') :
    ∃ arn host, balancer' = { balancer with arn := arn, dnsName := host } :=
  ⟨_, _, same.rest⟩

/-- A likeness permits a cycle to create what a configuration in force allows it. -/
def Likeness.Permits
    (likeness : Likeness)
    (key : IngressKey) : Prop :=
  ∀ configuration desired,
    likeness.inForce configuration →
    DesiredState.isAllowed configuration key desired = true →
    desired.name = likeness.name →
    likeness.mayCreate desired.createRequest

/-! ## Failures in words -/

namespace ControllerError

variable {error error' : CloudError} {arn arn' : String}

/-- An error with one source and no handle. -/
theorem alike_of_failure
    {wrapped wrapped' : ControllerError}
    (alike : likeness.failures error error')
    (outline : wrapped.outline = wrapped'.outline)
    (mentions : wrapped.mentions = [.failure error])
    (mentions' : wrapped'.mentions = [.failure error']) :
    likeness.errors wrapped wrapped' where
  outline := outline
  mentions := by
    rw [mentions, mentions']
    exact .cons (.failure alike) .nil

/-- An error with a handle and a source. -/
theorem alike_of_handle
    {wrapped wrapped' : ControllerError}
    (same : likeness.SameHandle arn arn')
    (alike : likeness.failures error error')
    (outline : wrapped.outline = wrapped'.outline)
    (mentions : wrapped.mentions = [.handle arn, .failure error])
    (mentions' : wrapped'.mentions = [.handle arn', .failure error']) :
    likeness.errors wrapped wrapped' where
  outline := outline
  mentions := by
    rw [mentions, mentions']
    exact .cons (.handle same) (.cons (.failure alike) .nil)

theorem alike_dependentResource
    {cause cause' : Cause}
    (step : DependentStep)
    (alike : likeness.causes cause cause') :
    likeness.errors (.dependentResource step cause) (.dependentResource step cause') where
  outline := congrArg (ControllerError.dependentResource step) alike.outline
  mentions := alike.mentions

theorem alike_teardown
    {cause cause' : Cause}
    (step : TeardownStep)
    (alike : likeness.causes cause cause') :
    likeness.errors (.teardown step cause) (.teardown step cause') where
  outline := congrArg (ControllerError.teardown step) alike.outline
  mentions := alike.mentions

end ControllerError

/-! ## The desired state -/

namespace DesiredState

theorem corresponds_settle
    (kind : ReferenceKind)
    (items : List String)
    (found : List ReferenceMatch) :
    Corresponds likeness.errors Eq (Reference.settle kind items found)
      (Reference.settle kind items found) := by
  rw [Reference.settle]
  split
  · exact .ok rfl
  · exact .error (ControllerError.alike_self rfl)

theorem alike_resolveSecurityGroups
    (items : List String) :
    (resolveSecurityGroups items).Alike likeness likeness.errors Eq
      (resolveSecurityGroups items) := by
  rw [resolveSecurityGroups_eq]
  apply Attempt.Alike.ite
  · exact .ofExcept (.ok rfl)
  · apply Attempt.Alike.bind
    · exact .cloud (.findSecurityGroups _) fun _ _ alike =>
        ControllerError.alike_of_failure alike rfl rfl rfl
    · rintro groups _ rfl
      exact .ofExcept (corresponds_settle _ _ _)

theorem alike_resolveAnnotatedSubnets
    (items : List String) :
    (resolveAnnotatedSubnets items).Alike likeness likeness.errors Eq
      (resolveAnnotatedSubnets items) := by
  rw [resolveAnnotatedSubnets_eq]
  apply Attempt.Alike.ite
  · exact .ofExcept (.ok rfl)
  · apply Attempt.Alike.bind
    · exact .cloud (.findSubnets _) fun _ _ alike =>
        ControllerError.alike_of_failure alike rfl rfl rfl
    · rintro ids _ rfl
      exact .ofExcept (corresponds_settle _ _ _)

theorem alike_resolveSubnets
    (items : List String)
    (scheme : Scheme) :
    (resolveSubnets items scheme).Alike likeness likeness.errors Eq
      (resolveSubnets items scheme) := by
  rw [resolveSubnets]
  apply Attempt.Alike.ite
  · apply Attempt.Alike.bind
    · exact .cloud (.findClusterSubnets scheme) fun _ _ alike =>
        ControllerError.alike_of_failure alike rfl rfl rfl
    · rintro subnets _ rfl
      exact .pure rfl
  · apply Attempt.Alike.bind (alike_resolveAnnotatedSubnets items)
    rintro subnets _ rfl
    exact .pure rfl

theorem alike_build
    (policy : NamingPolicy)
    (key : IngressKey)
    (annotations : IngressAnnotations) :
    (build policy key annotations).Alike likeness likeness.errors
      (fun desired desired' => desired = desired' ∧ desired.name = policy.loadBalancerName key)
      (build policy key annotations) := by
  rw [build]
  apply Attempt.Alike.bind
  · apply (alike_resolveSubnets _ _).mapFailure
    intro failure failure' alike
    exact ⟨congrArg (ControllerError.configBuild key.text) alike.outline, alike.mentions⟩
  · rintro subnets _ rfl
    exact .pure ⟨rfl, rfl⟩

end DesiredState

/-! ## The load balancer and what is attached to it -/

namespace Convergence

variable {current current' : LoadBalancer} {arn arn' : String} {desired : DesiredState}

theorem alike_createInstance
    (mayCreate : likeness.mayCreate desired.createRequest) :
    (createInstance desired).Alike likeness likeness.errors likeness.SameBalancer
      (createInstance desired) := by
  rw [createInstance]
  apply Attempt.Alike.bind (.report _ _)
  intro _ _ _
  apply Attempt.Alike.bind
  · exact .cloud (.createLoadBalancer mayCreate) fun _ _ alike =>
      ControllerError.alike_of_failure alike rfl rfl rfl
  · intro created created' same
    exact .bind (.report _ _) fun _ _ _ => .pure same

theorem alike_recreateInstance
    (same : likeness.SameBalancer current current')
    (mayCreate : likeness.mayCreate desired.createRequest) :
    (recreateInstance current desired).Alike likeness likeness.errors likeness.SameBalancer
      (recreateInstance current' desired) := by
  rw [recreateInstance, recreateInstance]
  have sameName : current'.name = current.name := by rw [same.rest]
  apply Attempt.Alike.bind (.report _ _)
  intro _ _ _
  apply Attempt.Alike.bind
  · apply Attempt.Alike.cloud (.deleteLoadBalancer same.ownHandle)
    intro error error' alike
    rw [sameName]
    exact ControllerError.alike_of_failure alike rfl rfl rfl
  intro _ _ _
  apply Attempt.Alike.bind (.report _ _)
  intro _ _ _
  have creation :
      (Attempt.cloud (.createLoadBalancer desired.createRequest) id).Alike likeness
        likeness.failures likeness.SameBalancer
        (Attempt.cloud (.createLoadBalancer desired.createRequest) id) :=
    .cloud (.createLoadBalancer mayCreate) fun _ _ alike => alike
  apply Attempt.Alike.mapFailure
  · apply creation.reporting
    intro result result' alike
    cases alike with
    | ok alike => rfl
    | error alike => rfl
  · intro error error' alike
    exact ControllerError.alike_of_handle same.ownHandle.same alike rfl rfl rfl

theorem alike_patchIpAddressType
    (same : likeness.SameBalancer current current') :
    (patchIpAddressType current desired).Alike likeness likeness.errors (fun _ _ => True)
      (patchIpAddressType current' desired) := by
  have own := same.ownHandle
  rcases same.exists_eq with ⟨arn', host, rfl⟩
  rw [patchIpAddressType, patchIpAddressType]
  apply Attempt.Alike.ite
  · apply Attempt.Alike.bind (.report _ _)
    intro _ _ _
    exact .cloud (.setIpAddressType own _) fun _ _ alike =>
      ControllerError.alike_of_handle own.same alike rfl rfl rfl
  · exact .pure trivial

theorem alike_patchSubnets
    (same : likeness.SameBalancer current current') :
    (patchSubnets current desired).Alike likeness likeness.errors (fun _ _ => True)
      (patchSubnets current' desired) := by
  have own := same.ownHandle
  rcases same.exists_eq with ⟨arn', host, rfl⟩
  rw [patchSubnets, patchSubnets]
  apply Attempt.Alike.ite
  · apply Attempt.Alike.bind (.report _ _)
    intro _ _ _
    exact .cloud (.setSubnets own _) fun _ _ alike =>
      ControllerError.alike_of_handle own.same alike rfl rfl rfl
  · exact .pure trivial

theorem alike_ensureInstance
    (named : desired.name = likeness.name)
    (mayCreate : likeness.mayCreate desired.createRequest) :
    (ensureInstance desired).Alike likeness likeness.errors likeness.SameBalancer
      (ensureInstance desired) := by
  rw [ensureInstance, named]
  apply Attempt.Alike.bind
  · exact .cloud .findLoadBalancer fun _ _ alike =>
      ControllerError.alike_of_failure alike rfl rfl rfl
  rintro existing existing' found
  cases found with
  | none => exact alike_createInstance mayCreate
  | @some current current' same =>
      have sameNeed : needsRecreation current' desired = needsRecreation current desired := by
        rw [same.rest]
        rfl
      dsimp only
      rw [sameNeed]
      apply Attempt.Alike.ite
      · exact alike_recreateInstance same mayCreate
      · apply Attempt.Alike.bind (alike_patchIpAddressType same)
        intro _ _ _
        apply Attempt.Alike.bind (alike_patchSubnets same)
        intro _ _ _
        exact .pure same

theorem alike_convergeAttributes
    (own : likeness.OwnHandle arn arn')
    (desired : Table String) :
    (convergeAttributes arn desired).Alike likeness likeness.causes (fun _ _ => True)
      (convergeAttributes arn' desired) := by
  rw [convergeAttributes, convergeAttributes]
  apply Attempt.Alike.ite
  · apply Attempt.Alike.bind
    · exact .cloud (.readAttributes own) fun _ _ alike => Cause.alike_cloud alike
    rintro current _ rfl
    apply Attempt.Alike.ite
    · apply Attempt.Alike.bind (.report _ _)
      intro _ _ _
      exact .cloud (.modifyAttributes own _) fun _ _ alike => Cause.alike_cloud alike
    · exact .pure trivial
  · exact .pure trivial

theorem alike_carryOut
    (own : likeness.OwnHandle arn arn')
    (plan : WebAclPlan) :
    (carryOut arn plan).Alike likeness likeness.errors (fun _ _ => True) (carryOut arn' plan) := by
  cases plan with
  | keep => exact .pure trivial
  | associate webAclId =>
      apply Attempt.Alike.bind (.report _ _)
      intro _ _ _
      exact .cloud (.associateWebAcl own webAclId) fun _ _ alike =>
        ControllerError.alike_of_handle own.same alike rfl rfl rfl
  | disassociate =>
      apply Attempt.Alike.bind (.report _ _)
      intro _ _ _
      exact .cloud (.disassociateWebAcl own) fun _ _ alike =>
        ControllerError.alike_of_handle own.same alike rfl rfl rfl

theorem alike_requireWebAcl
    (own : likeness.OwnHandle arn arn')
    (webAclId : String) :
    (requireWebAcl arn webAclId).Alike likeness likeness.errors (fun _ _ => True)
      (requireWebAcl arn' webAclId) := by
  rw [requireWebAcl, requireWebAcl]
  apply Attempt.Alike.bind
  · exact .cloud (.checkWebAcl webAclId) fun _ _ alike =>
      ControllerError.alike_of_handle own.same alike rfl rfl rfl
  · rintro known _ rfl
    apply Attempt.Alike.ite
    · exact .throw ⟨rfl, .cons (.handle own.same) .nil⟩
    · exact .pure trivial

theorem alike_convergeWebAcl
    (own : likeness.OwnHandle arn arn')
    (desired : Option String) :
    (convergeWebAcl arn desired).Alike likeness likeness.errors (fun _ _ => True)
      (convergeWebAcl arn' desired) := by
  rw [convergeWebAcl, convergeWebAcl]
  apply Attempt.Alike.bind
  · exact .cloud (.readWebAcl own) fun _ _ alike =>
      ControllerError.alike_of_handle own.same alike rfl rfl rfl
  rintro current _ rfl
  cases desired with
  | none => exact alike_carryOut own _
  | some webAclId =>
      apply Attempt.Alike.bind (alike_requireWebAcl own webAclId)
      intro _ _ _
      exact alike_carryOut own _

end Convergence

/-! ## The cycle -/

namespace Controller

variable {Failure Failure' Value Value' : Type} {balancer balancer' : LoadBalancer}

theorem alike_takeStep
    {failures : Failure → Failure' → Prop}
    {values : Value → Value' → Prop}
    {attempt : Attempt Failure Value}
    {attempt' : Attempt Failure' Value'}
    {toCause : Failure → Cause}
    {toCause' : Failure' → Cause}
    (step : DependentStep)
    (alike : attempt.Alike likeness failures values attempt')
    (toCauses : ∀ failure failure', failures failure failure' →
      likeness.causes (toCause failure) (toCause' failure')) :
    (takeStep step toCause attempt).Alike likeness likeness.errors values
      (takeStep step toCause' attempt') := by
  rw [takeStep, takeStep]
  apply Attempt.Alike.bind
  · exact .checkpoint fun _ _ alike =>
      ControllerError.alike_dependentResource step (Cause.alike_cloud alike)
  · intro _ _ _
    apply alike.mapFailure
    intro failure failure' alike
    exact ControllerError.alike_dependentResource step (toCauses _ _ alike)

theorem alike_takeStep_collaborator
    {call call' : CollaboratorCall}
    {answers : call.Answer → call'.Answer → Prop}
    (step : DependentStep)
    (alike : call.Alike likeness call' answers) :
    (takeStep step id (Attempt.collaborator call id)).Alike likeness likeness.errors answers
      (takeStep step id (Attempt.collaborator call' id)) :=
  alike_takeStep step (.collaborator alike fun _ _ causes => causes) fun _ _ causes => causes

theorem alike_attributesStep
    {arn arn' : String}
    (controller : Controller)
    (own : likeness.OwnHandle arn arn')
    (desired : Table String) :
    (controller.attributesStep arn desired).Alike likeness likeness.causes (fun _ _ => True)
      (controller.attributesStep arn' desired) := by
  rw [attributesStep, attributesStep]
  cases controller.attributeRoute with
  | direct => exact Convergence.alike_convergeAttributes own desired
  | delegated => exact .collaborator (.convergeAttributes own desired) fun _ _ causes => causes

theorem alike_securityGroupsStep
    (same : likeness.SameBalancer balancer balancer')
    (key : IngressKey)
    (annotations : LoadBalancerAnnotations)
    (targetGroups : TargetGroupSet) :
    (securityGroupsStep key annotations balancer targetGroups).Alike likeness likeness.causes
      (fun _ _ => True) (securityGroupsStep key annotations balancer' targetGroups) := by
  have own := same.ownHandle
  rcases same.exists_eq with ⟨arn', host, rfl⟩
  rw [securityGroupsStep, securityGroupsStep]
  apply Attempt.Alike.bind
  · apply (DesiredState.alike_resolveSecurityGroups _).mapFailure
    intro failure failure' alike
    exact Cause.alike_controller alike
  · rintro externalGroupIds _ rfl
    exact .collaborator (.convergeSecurityGroups own rfl) fun _ _ causes => causes

theorem alike_convergeDependents
    (same : likeness.SameBalancer balancer balancer')
    (controller : Controller)
    (key : IngressKey)
    (ingress : Ingress)
    (annotations : LoadBalancerAnnotations) :
    (controller.convergeDependents key ingress annotations balancer).Alike likeness
      likeness.errors (fun _ _ => True)
      (controller.convergeDependents key ingress annotations balancer') := by
  have own := same.ownHandle
  rw [convergeDependents, convergeDependents]
  apply Attempt.Alike.bind
  · exact alike_takeStep _ (controller.alike_attributesStep own _) fun _ _ causes => causes
  intro _ _ _
  apply Attempt.Alike.bind
  · exact alike_takeStep _ (Convergence.alike_convergeWebAcl own _) fun _ _ errors =>
      Cause.alike_controller errors
  intro _ _ _
  apply Attempt.Alike.bind (alike_takeStep_collaborator _ (.convergeTargetGroups ingress))
  rintro targetGroups _ rfl
  apply Attempt.Alike.bind
  · exact alike_takeStep_collaborator _ (.convergeListeners own ingress targetGroups)
  intro _ _ _
  apply Attempt.Alike.bind (alike_takeStep_collaborator _ (.collectTargetGroups targetGroups))
  intro _ _ _
  exact alike_takeStep _ (alike_securityGroupsStep same key annotations targetGroups)
    fun _ _ causes => causes

theorem alike_requireAllowed
    (key : IngressKey)
    (desired : DesiredState) :
    (requireAllowed key desired).Alike likeness likeness.errors
      (fun _ _ => ∃ configuration, likeness.inForce configuration ∧
        DesiredState.isAllowed configuration key desired = true)
      (requireAllowed key desired) := by
  rw [requireAllowed]
  apply Attempt.Alike.bind .configuration
  rintro configuration _ ⟨rfl, inForce⟩
  apply Attempt.Alike.ofExcept
  rw [DesiredState.validate]
  split
  next allowed => exact .ok ⟨configuration, inForce, allowed⟩
  next refused => exact .error (ControllerError.alike_self rfl)

theorem alike_converge
    {controller : Controller}
    {key : IngressKey}
    (named : likeness.name = controller.naming.loadBalancerName key)
    (permits : likeness.Permits key)
    (ingress : Ingress) :
    (controller.converge key ingress).Alike likeness likeness.errors likeness.same
      (controller.converge key ingress) := by
  rw [converge]
  apply Attempt.Alike.bind
  · apply Attempt.Alike.annotationsOf
    intro cause cause' alike
    exact ⟨congrArg (ControllerError.store key.text) alike.outline, alike.mentions⟩
  rintro annotations _ rfl
  apply Attempt.Alike.bind (DesiredState.alike_build _ _ _)
  rintro desired _ ⟨rfl, nameEq⟩
  apply Attempt.Alike.bind (alike_requireAllowed key desired)
  rintro _ _ ⟨configuration, inForce, allowed⟩
  have desiredNamed := nameEq.trans named.symm
  apply Attempt.Alike.bind
  · exact Convergence.alike_ensureInstance desiredNamed
      (permits configuration desired inForce allowed desiredNamed)
  intro balancer balancer' same
  apply Attempt.Alike.bind
    (alike_convergeDependents same controller key ingress annotations.loadBalancer)
  intro _ _ _
  exact .pure same.same

/-- A cycle goes on alike for load balancers that are the same but for their identities. -/
theorem alike_reconcile
    {controller : Controller}
    {ingress : Ingress}
    (named : ∀ key, IngressKey.ofIngress? ingress = some key →
      likeness.name = controller.naming.loadBalancerName key)
    (permits : ∀ key, IngressKey.ofIngress? ingress = some key → likeness.Permits key) :
    (controller.reconcile ingress).Alike likeness likeness.errors likeness.same
      (controller.reconcile ingress) := by
  rw [reconcile]
  cases isNamed : IngressKey.ofIngress? ingress with
  | none => exact .throw (ControllerError.alike_self rfl)
  | some key =>
      apply Attempt.Alike.bind (.report _ _)
      intro _ _ _
      apply (alike_converge (named key isNamed) (permits key isNamed) ingress).reporting
      intro result result' alike
      cases alike with
      | ok alike => rfl
      | error alike => rfl

/-! ## The removal -/

theorem alike_teardown
    (same : likeness.SameBalancer balancer balancer')
    (key : IngressKey) :
    (teardown key balancer).Alike likeness likeness.errors (fun _ _ => True)
      (teardown key balancer') := by
  have own := same.ownHandle
  rcases same.exists_eq with ⟨arn', host, rfl⟩
  rw [teardown, teardown]
  apply Attempt.Alike.bind
  · apply Attempt.Alike.collaborator (.deleteSecurityGroups own rfl)
    exact fun _ _ causes => ControllerError.alike_teardown _ causes
  intro _ _ _
  apply Attempt.Alike.bind
  · apply Attempt.Alike.collaborator (.deleteListeners own)
    exact fun _ _ causes => ControllerError.alike_teardown _ causes
  intro _ _ _
  apply Attempt.Alike.bind
  · apply Attempt.Alike.collaborator (.deleteTargetGroups key)
    exact fun _ _ causes => ControllerError.alike_teardown _ causes
  intro _ _ _
  apply Attempt.Alike.bind (.report _ _)
  intro _ _ _
  apply Attempt.Alike.bind
  · apply Attempt.Alike.cloud (.deleteLoadBalancer own)
    exact fun _ _ failures => ControllerError.alike_teardown _ (Cause.alike_cloud failures)
  intro _ _ _
  exact .report _ _

/-- A removal goes on alike for load balancers that are the same but for their identities. -/
theorem alike_delete
    {controller : Controller}
    {key : IngressKey}
    (named : likeness.name = controller.naming.loadBalancerName key) :
    (controller.delete key).Alike likeness likeness.errors (fun _ _ => True)
      (controller.delete key) := by
  rw [delete, ← named]
  apply Attempt.Alike.bind
  · exact .cloud .findLoadBalancer fun _ _ alike =>
      ControllerError.alike_of_failure alike rfl rfl rfl
  intro existing existing' found
  cases found with
  | none => exact .report _ _
  | some same =>
      apply (alike_teardown same key).reporting
      intro result result' alike
      cases alike with
      | ok alike => rfl
      | error alike => rfl

end Controller

end IngressConvergence
