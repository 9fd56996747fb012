import IngressConvergence.Convergence.Removal
import IngressConvergence.Proofs.FailFast.Cycle
import IngressConvergence.Proofs.Schedule

/-!
# The schedules of cycles

A cycle keeps to `Controller.cycleSchedule` and a removal to `Controller.removalSchedule`, whatever the
replies are.  Between the calls to collaborators there may be calls to the cloud only where the
schedules have a stage for them; in particular nothing follows the security groups of a cycle.
-/

namespace IngressConvergence

/-! ## The desired state -/

namespace DesiredState

theorem onlyCloud_resolveSecurityGroups
    (items : List String) :
    (resolveSecurityGroups items).OnlyCloud := by
  intro stages
  rw [resolveSecurityGroups_eq]
  exact .ite (.ofExcept _) (.bind (.cloud _ _) fun groups => .ofExcept _)

theorem onlyCloud_resolveAnnotatedSubnets
    (items : List String) :
    (resolveAnnotatedSubnets items).OnlyCloud := by
  intro stages
  rw [resolveAnnotatedSubnets_eq]
  exact .ite (.ofExcept _) (.bind (.cloud _ _) fun ids => .ofExcept _)

theorem onlyCloud_build
    (policy : NamingPolicy)
    (key : IngressKey)
    (annotations : IngressAnnotations) :
    (build policy key annotations).OnlyCloud := by
  intro stages
  rw [build, resolveSubnets]
  refine .bind (.mapFailure (.ite ?_ ?_) _) fun subnets => .pure _
  · exact .bind (.cloud _ _) fun subnets => .pure _
  · exact .bind (onlyCloud_resolveAnnotatedSubnets _ stages) fun subnets => .pure _

end DesiredState

/-! ## The load balancer and what is attached to it -/

namespace Convergence

theorem onlyCloud_createInstance
    (desired : DesiredState) :
    (createInstance desired).OnlyCloud := by
  intro stages
  rw [createInstance]
  refine .bind (.report _) fun _ => .bind (.cloud _ _) fun created => ?_
  exact .bind (.report _) fun _ => .pure _

theorem onlyCloud_recreateInstance
    (current : LoadBalancer)
    (desired : DesiredState) :
    (recreateInstance current desired).OnlyCloud := by
  intro stages
  rw [recreateInstance]
  refine .bind (.report _) fun _ => .bind (.cloud _ _) fun _ => .bind (.report _) fun _ => ?_
  have creation :
      Attempt.KeepsTo (.cloud :: stages) (.cloud :: stages)
        (Attempt.cloud (.createLoadBalancer desired.createRequest) id) :=
    .cloud _ _
  exact (creation.reporting _).mapFailure _

theorem onlyCloud_patchIpAddressType
    (current : LoadBalancer)
    (desired : DesiredState) :
    (patchIpAddressType current desired).OnlyCloud := by
  intro stages
  exact .ite (.bind (.report _) fun _ => .cloud _ _) (.pure _)

theorem onlyCloud_patchSubnets
    (current : LoadBalancer)
    (desired : DesiredState) :
    (patchSubnets current desired).OnlyCloud := by
  intro stages
  exact .ite (.bind (.report _) fun _ => .cloud _ _) (.pure _)

theorem onlyCloud_ensureInstance
    (desired : DesiredState) :
    (ensureInstance desired).OnlyCloud := by
  intro stages
  rw [ensureInstance]
  refine .bind (.cloud _ _) ?_
  rintro (_ | current)
  · exact onlyCloud_createInstance desired stages
  · refine .ite (onlyCloud_recreateInstance current desired stages) ?_
    refine .bind (onlyCloud_patchIpAddressType current desired stages) fun _ => ?_
    exact .bind (onlyCloud_patchSubnets current desired stages) fun _ => .pure _

theorem onlyCloud_convergeAttributes
    (arn : String)
    (desired : Table String) :
    (convergeAttributes arn desired).OnlyCloud := by
  intro stages
  rw [convergeAttributes]
  refine .ite (.bind (.cloud _ _) fun current => ?_) (.pure _)
  exact .ite (.bind (.report _) fun _ => .cloud _ _) (.pure _)

theorem onlyCloud_carryOut
    (arn : String)
    (plan : WebAclPlan) :
    (carryOut arn plan).OnlyCloud := by
  intro stages
  cases plan with
  | keep => exact .pure _
  | associate webAclId => exact .bind (.report _) fun _ => .cloud _ _
  | disassociate => exact .bind (.report _) fun _ => .cloud _ _

theorem onlyCloud_convergeWebAcl
    (arn : String)
    (desired : Option String) :
    (convergeWebAcl arn desired).OnlyCloud := by
  intro stages
  rw [convergeWebAcl]
  refine .bind (.cloud _ _) fun current => ?_
  cases desired with
  | none => exact onlyCloud_carryOut arn (planWebAcl current none) stages
  | some webAclId =>
      refine .bind ?_ fun _ => onlyCloud_carryOut arn (planWebAcl current (some webAclId)) stages
      exact .bind (.cloud _ _) fun known => .ite (.throw _) (.pure _)

end Convergence

/-! ## The cycle -/

/-- The stages of a cycle up to the firewall policy, which depend on who converges attributes. -/
def AttributeRoute.stages : AttributeRoute → List Stage
  | .direct => [.cloud]
  | .delegated => [.cloud, .collaborator "attrs.reconcile", .cloud]

namespace Controller

/-- The stages that follow the firewall policy of a load balancer. -/
def dependentStages : List Stage :=
  [.collaborator "tg.reconcile", .collaborator "ls.reconcile", .collaborator "tg.gc", .cloud,
    .collaborator "sg.reconcile"]

/-- The schedule of a cycle. -/
def cycleSchedule (controller : Controller) : List Stage :=
  controller.attributeRoute.stages ++ dependentStages

/-- The schedule of a removal. -/
def removalSchedule : List Stage :=
  [.cloud, .collaborator "sg.delete", .collaborator "ls.delete", .collaborator "tg.delete", .cloud]

variable {Failure Value : Type} {stages remaining : List Stage}

theorem keepsTo_takeStep
    (step : DependentStep)
    (toCause : Failure → Cause)
    {attempt : Attempt Failure Value}
    (keeps : attempt.KeepsTo stages remaining) :
    (takeStep step toCause attempt).KeepsTo stages remaining :=
  .bind (.checkpoint _ _) fun _ => keeps.mapFailure _

theorem keepsTo_attributesStep
    (controller : Controller)
    (arn : String)
    (desired : Table String) :
    (controller.attributesStep arn desired).KeepsTo
      (controller.attributeRoute.stages ++ stages) (.cloud :: stages) := by
  rw [attributesStep]
  cases controller.attributeRoute with
  | direct => exact Convergence.onlyCloud_convergeAttributes arn desired stages
  | delegated => exact .skip (.collaborator (.convergeAttributes arn desired) id)

theorem keepsTo_securityGroupsStep
    (key : IngressKey)
    (annotations : LoadBalancerAnnotations)
    (balancer : LoadBalancer)
    (targetGroups : TargetGroupSet) :
    (securityGroupsStep key annotations balancer targetGroups).KeepsTo
      [.cloud, .collaborator "sg.reconcile"] [] := by
  rw [securityGroupsStep]
  refine .bind (.mapFailure (DesiredState.onlyCloud_resolveSecurityGroups _ _) _) ?_
  intro externalGroupIds
  exact .skip (.collaborator (.convergeSecurityGroups _) id)

/-- The steps behind the load balancer come in the order of the schedule. -/
theorem keepsTo_convergeDependents
    (controller : Controller)
    (key : IngressKey)
    (ingress : Ingress)
    (annotations : LoadBalancerAnnotations)
    (balancer : LoadBalancer) :
    (controller.convergeDependents key ingress annotations balancer).KeepsTo
      controller.cycleSchedule [] := by
  rw [convergeDependents, cycleSchedule, dependentStages]
  refine .bind (keepsTo_takeStep _ _ (controller.keepsTo_attributesStep _ _)) fun _ => ?_
  refine .bind (keepsTo_takeStep _ _ (Convergence.onlyCloud_convergeWebAcl _ _ _)) fun _ => .skip ?_
  refine .bind (keepsTo_takeStep _ _ (.collaborator (.convergeTargetGroups _) _)) fun groups => ?_
  refine .bind (keepsTo_takeStep _ _ (.collaborator (.convergeListeners _ _ _) _)) fun _ => ?_
  refine .bind (keepsTo_takeStep _ _ (.collaborator (.collectTargetGroups _) _)) fun _ => ?_
  exact keepsTo_takeStep _ _ (keepsTo_securityGroupsStep _ _ _ _)

theorem cycleSchedule_eq_cons
    (controller : Controller) :
    ∃ stages, controller.cycleSchedule = .cloud :: stages := by
  rw [cycleSchedule]
  cases controller.attributeRoute with
  | direct => exact ⟨_, rfl⟩
  | delegated => exact ⟨_, rfl⟩

/-- The schedule of a cycle ends with the security groups, which it names only there. -/
theorem cycleSchedule_eq_append
    (controller : Controller) :
    ∃ front, controller.cycleSchedule = front ++ [.collaborator "sg.reconcile"] ∧
      Stage.collaborator "sg.reconcile" ∉ front := by
  refine ⟨controller.attributeRoute.stages ++ dependentStages.dropLast, ?_, ?_⟩
  · rw [List.append_assoc]
    rfl
  · cases controller.attributeRoute with
    | direct => decide
    | delegated => decide

/-- A cycle keeps to its schedule from the first request to the last. -/
theorem keepsTo_converge
    (controller : Controller)
    (key : IngressKey)
    (ingress : Ingress) :
    (controller.converge key ingress).KeepsTo controller.cycleSchedule [] := by
  have dependents := controller.keepsTo_convergeDependents key ingress
  rcases controller.cycleSchedule_eq_cons with ⟨stages, begins⟩
  rw [begins] at dependents ⊢
  rw [converge]
  refine .bind (.annotationsOf _ _) fun annotations => ?_
  refine .bind (DesiredState.onlyCloud_build _ _ _ stages) fun desired => ?_
  refine .bind (.bind .configuration fun configuration => .ofExcept _) fun _ => ?_
  refine .bind (Convergence.onlyCloud_ensureInstance _ stages) fun balancer => ?_
  exact .bind (dependents _ _) fun _ => .pure _

/-- A cycle keeps to its schedule. -/
theorem keepsTo_reconcile
    (controller : Controller)
    (ingress : Ingress) :
    (controller.reconcile ingress).KeepsTo controller.cycleSchedule [] := by
  rw [reconcile]
  split
  · exact .throw _
  · exact .bind (.report _) fun _ => (controller.keepsTo_converge _ _).reporting _

/-! ## The removal -/

theorem keepsTo_teardown
    (key : IngressKey)
    (balancer : LoadBalancer) :
    (teardown key balancer).KeepsTo removalSchedule [.cloud] := by
  rw [teardown, removalSchedule]
  refine .skip (.bind (.collaborator (.deleteSecurityGroups _) _) fun _ => ?_)
  refine .bind (.collaborator (.deleteListeners _) _) fun _ => ?_
  refine .bind (.collaborator (.deleteTargetGroups _) _) fun _ => ?_
  refine .bind (.report _) fun _ => .bind (.cloud _ _) fun _ => .report _

/-- A removal keeps to its schedule, of which everything after the first stage is left if there is
nothing to remove. -/
theorem keepsTo_delete
    (controller : Controller)
    (key : IngressKey) :
    (ExceptT.run (controller.delete key)).KeepsTo (fun _ => True) removalSchedule := by
  have lookup :
      (Attempt.cloud (.findLoadBalancer (controller.naming.loadBalancerName key))
        (ControllerError.lookup (controller.naming.loadBalancerName key))).KeepsTo
          removalSchedule removalSchedule :=
    .cloud _ _
  rw [delete]
  apply Program.KeepsTo.bind lookup
  · rintro (_ | balancer) _ rfl
    · exact .silent rfl fun _ => .succeeded trivial ()
    · exact ((keepsTo_teardown key balancer).reporting _).weaken fun _ _ => trivial
  · intro failure left
    exact .failed left failure

end Controller

end IngressConvergence
