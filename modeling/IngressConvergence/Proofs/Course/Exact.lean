import IngressConvergence.Proofs.Course.Cycle
import IngressConvergence.Proofs.Stage.Attachments

/-!
# Calls that are known beforehand

Which calls an attempt makes may be known from the tables before it, at least where it succeeds.
`Attempt.MakesExactly` says so, and for each way in which attempts are put together one rule says which
calls come together.  The calls of the steps that follow a load balancer are read off its attributes and
its association: this is `Controller.makesExactly_convergeDependents`.
-/

namespace IngressConvergence

namespace Attempt

variable {Failure Other First Second Value : Type} {tables after : CloudTables}
  {calls expected earlier later : List CloudCall} {call : CloudCall}

/-- Where an attempt succeeds, it makes exactly the expected of the calls that may change the cloud, and
they are performed one after the other. -/
def MakesExactly
    (attempt : Attempt Failure Value)
    (tables : CloudTables)
    (expected : List CloudCall) : Prop :=
  ∀ calls value after,
    attempt.Course tables calls (.ok value) after →
      calls = expected ∧ tables.PerformsAll expected after

/-- The calls of a course are such that may change the cloud. -/
theorem Course.isMutating_of_mem
    {attempt : Attempt Failure Value}
    {result : Except Failure Value}
    (course : attempt.Course tables calls result after) :
    ∀ call ∈ calls, call.isMutating = true := by
  rcases course with ⟨world, -, -, -, added⟩
  intro call member
  have recorded : call ∈ (world.run attempt).2.cloud.mutatingCalls := by
    rw [added]
    exact List.mem_append_right _ member
  exact (List.mem_filter.mp recorded).2

namespace MakesExactly

/-- An attempt that only reads makes no calls that may change the cloud. -/
theorem nothing
    {attempt : Attempt Failure Value}
    (reads : attempt.AsksOnly (Request.IsCallOf fun call => call.isMutating = false)) :
    attempt.MakesExactly tables [] := by
  intro calls value after course
  rcases course.of_asksOnly reads with ⟨becomes, allRead⟩
  constructor
  · refine List.eq_nil_iff_forall_not_mem.mpr fun call member => ?_
    exact absurd (allRead call member) (by simp [course.isMutating_of_mem call member])
  · have same : after = tables := by
      clear course
      induction becomes with
      | start => rfl
      | call earlier reads performed ih =>
          rw [CloudTables.eq_of_perform_of_not_isMutating reads performed, ih]
    exact CloudTables.PerformsAll.nil_iff.mpr same

theorem pure
    (value : Value) :
    (Pure.pure value : Attempt Failure Value).MakesExactly tables [] :=
  nothing (.ofExcept (.ok value))

theorem cloud
    {wrap : CloudError → Failure}
    (mutates : call.isMutating = true) :
    (Attempt.cloud call wrap).MakesExactly tables [call] := by
  intro calls value after course
  rcases course.cloud with ⟨error, same, -⟩ | ⟨answer, -, rfl, performed⟩
  · cases same
  · have made : call.mutations = [call] := List.filter_eq_self.mpr (by simpa using mutates)
    exact ⟨made, CloudTables.PerformsAll.singleton_iff.mpr ⟨answer, performed⟩⟩

theorem bind
    {attempt : Attempt Failure First}
    {next : First → Attempt Failure Second}
    (first : attempt.MakesExactly tables earlier)
    (rest :
      ∀ value middle, tables.PerformsAll earlier middle → (next value).MakesExactly middle later) :
    (attempt >>= next).MakesExactly tables (earlier ++ later) := by
  intro calls value after course
  rcases course.bind_of_ok with ⟨between, made, middle, more, rfl, starts, goesOn⟩
  rcases first _ _ _ starts with ⟨rfl, performs⟩
  rcases rest between middle performs _ _ _ goesOn with ⟨rfl, performsMore⟩
  exact ⟨rfl, performs.append performsMore⟩

/-- What only reads may come before the expected calls. -/
theorem bind_of_reads
    {attempt : Attempt Failure First}
    {next : First → Attempt Failure Second}
    (reads : attempt.AsksOnly (Request.IsCallOf fun call => call.isMutating = false))
    (rest : ∀ value, (next value).MakesExactly tables expected) :
    (attempt >>= next).MakesExactly tables expected := by
  refine bind (nothing reads) fun value middle performs => ?_
  rw [CloudTables.PerformsAll.nil_iff.mp performs]
  exact rest value

/-- The expected calls may depend on what was read from the tables before. -/
theorem read_bind
    {wrap : CloudError → Failure}
    {next : call.Answer → Attempt Failure Value}
    (reads : call.isMutating = false)
    (rest :
      ∀ answer, tables.perform call = .ok (answer, tables) →
        (next answer).MakesExactly tables expected) :
    (Attempt.cloud call wrap >>= next).MakesExactly tables expected := by
  intro calls value after course
  rcases course.cloud_bind with ⟨error, same, -⟩ | ⟨answer, middle, later, rfl, performed, goesOn⟩
  · cases same
  · have none : call.mutations = [] := List.filter_eq_nil_iff.mpr (by simpa using reads)
    have same := CloudTables.eq_of_perform_of_not_isMutating reads performed
    rw [same] at performed goesOn
    rw [none, List.nil_append]
    exact rest answer performed _ _ _ goesOn

theorem ite
    {condition : Prop}
    [Decidable condition]
    {attempt other : Attempt Failure Value}
    (whenTrue : condition → attempt.MakesExactly tables expected)
    (whenFalse : ¬ condition → other.MakesExactly tables expected) :
    (if condition then attempt else other).MakesExactly tables expected := by
  by_cases holds : condition
  · rw [if_pos holds]
    exact whenTrue holds
  · rw [if_neg holds]
    exact whenFalse holds

theorem mapFailure
    {attempt : Attempt Failure Value}
    (makes : attempt.MakesExactly tables expected)
    (wrap : Failure → Other) :
    (attempt.mapFailure wrap).MakesExactly tables expected := by
  intro calls value after course
  rcases course.mapFailure with ⟨inner, same, innerCourse⟩
  cases inner with
  | error failure => cases same
  | ok given => exact makes _ _ _ innerCourse

end MakesExactly

end Attempt

open Attempt (MakesExactly)

/-! ## The load balancer and what is attached to it -/

namespace Convergence

variable {tables : CloudTables}

/-- The load balancer is ensured by the calls that are read off the tables. -/
theorem makesExactly_ensureInstance
    (tables : CloudTables)
    (desired : DesiredState) :
    (ensureInstance desired).MakesExactly tables (instanceCalls tables desired) := by
  intro calls balancer after course
  cases instanceEnding_of_course course with
  | created absent performed =>
      rw [instanceCalls_of_absent absent]
      exact ⟨rfl, .call performed (.done _)⟩
  | @recreated current _ _ found differs performed =>
      have deleted :
          tables.perform (.deleteLoadBalancer current.arn) =
            .ok (((), tables.delete current.arn) : Unit × CloudTables) :=
        rfl
      rw [instanceCalls_of_differs found differs]
      exact ⟨rfl, .call deleted (.call performed (.done _))⟩
  | patched found sameScheme retyped moved =>
      rw [instanceCalls_of_sameScheme found sameScheme]
      exact ⟨rfl, retyped.append moved⟩

/-- The attributes that are lacking or are held with another value, in one call if there are any. -/
def attributeCalls
    (arn : String)
    (held annotated : Table String) : List CloudCall :=
  let lacking := annotated.filter fun name value => held.lookup name ≠ some value
  if lacking.isEmpty then [] else [.modifyAttributes arn lacking]

/-- The association with an annotated firewall policy, if it is not there already, or the end of the one
that is there, if none is annotated. -/
def webAclCalls
    (arn : String)
    (associated annotated : Option String) : List CloudCall :=
  match annotated with
  | some webAclId => if associated = some webAclId then [] else [.associateWebAcl arn webAclId]
  | none => if associated = none then [] else [.disassociateWebAcl arn]

/-- The calls that carry out a plan. -/
def planCalls
    (arn : String) :
    WebAclPlan → List CloudCall
  | .keep => []
  | .associate webAclId => [.associateWebAcl arn webAclId]
  | .disassociate => [.disassociateWebAcl arn]

/-- The plan for a firewall policy takes exactly the calls that its difference from the desired one asks
for. -/
theorem planCalls_planWebAcl
    (tables : CloudTables)
    (arn : String)
    (desired : Option String) :
    planCalls arn (planWebAcl (currentWebAcl tables arn) desired) =
      webAclCalls arn (tables.associationOf arn) desired := by
  cases desired with
  | none =>
      cases associated : tables.associationOf arn with
      | none => simp [planWebAcl, currentWebAcl, associated, planCalls, webAclCalls]
      | some current => simp [planWebAcl, currentWebAcl, associated, planCalls, webAclCalls]
  | some webAclId =>
      by_cases same : tables.associationOf arn = some webAclId
      · rw [(planWebAcl_eq_keep_iff tables arn (some webAclId)).mpr same]
        simp [same, planCalls, webAclCalls]
      · simp [planWebAcl, currentWebAcl, Function.comp_def, same, planCalls, webAclCalls]

theorem attributeCalls_eq
    (arn : String)
    (held annotated : Table String) :
    attributeCalls arn held annotated =
      if (changedAttributes held annotated).isEmpty then []
      else [.modifyAttributes arn (changedAttributes held annotated)] :=
  rfl

theorem isEmpty_changedAttributes
    {held annotated : Table String}
    (noneAnnotated : annotated.isEmpty = true) :
    (changedAttributes held annotated).isEmpty = true := by
  refine (Table.isEmpty_iff _).mpr fun name => ?_
  rw [changedAttributes, Table.lookup_filter, (Table.isEmpty_iff annotated).mp noneAnnotated name]
  rfl

theorem makesExactly_convergeAttributes
    (arn : String)
    (annotated : Table String) :
    (convergeAttributes arn annotated).MakesExactly tables
      (attributeCalls arn (tables.attributesOf arn) annotated) := by
  refine .ite ?_ ?_
  · intro someAnnotated
    refine .read_bind rfl fun held answered => ?_
    cases (CloudTables.readAttributes_eq_ok_iff.mp answered).2.1
    refine .ite ?_ ?_
    · intro someLacking
      have lacking : (changedAttributes (tables.attributesOf arn) annotated).isEmpty = false := by
        simpa using someLacking
      rw [attributeCalls_eq, lacking, if_neg Bool.false_ne_true]
      exact .bind_of_reads (.single trivial) fun _ => .cloud rfl
    · intro noneLacking
      rw [attributeCalls_eq, if_pos (by simpa using noneLacking)]
      exact .pure ()
  · intro noneAnnotated
    rw [attributeCalls_eq, if_pos (isEmpty_changedAttributes (by simpa using noneAnnotated))]
    exact .pure ()

theorem makesExactly_carryOut
    (arn : String)
    (plan : WebAclPlan) :
    (carryOut arn plan).MakesExactly tables (planCalls arn plan) := by
  cases plan with
  | keep => exact .pure ()
  | associate webAclId => exact .bind_of_reads (.single trivial) fun _ => .cloud rfl
  | disassociate => exact .bind_of_reads (.single trivial) fun _ => .cloud rfl

theorem makesExactly_convergeWebAcl
    (arn : String)
    (annotated : Option String) :
    (convergeWebAcl arn annotated).MakesExactly tables
      (webAclCalls arn (tables.associationOf arn) annotated) := by
  refine .read_bind rfl fun current answered => ?_
  cases answered
  rw [← planCalls_planWebAcl]
  cases annotated with
  | none => exact makesExactly_carryOut arn _
  | some webAclId =>
      refine .bind_of_reads ?_ fun _ => makesExactly_carryOut arn _
      exact .bind (.single rfl) fun known => .ite (.ofExcept (.error _)) (.ofExcept (.ok ()))

end Convergence

/-! ## The steps that follow a load balancer -/

namespace Controller

open Convergence (attributeCalls webAclCalls)

variable {Failure Value : Type} {controller : Controller} {key : IngressKey} {ingress : Ingress}
  {annotations : LoadBalancerAnnotations} {balancer : LoadBalancer} {tables after : CloudTables}
  {expected : List CloudCall}

/-- The calls for the attributes of a load balancer; to delegate them takes none. -/
def attributeStepCalls
    (controller : Controller)
    (arn : String)
    (held annotated : Table String) : List CloudCall :=
  match controller.attributeRoute with
  | .direct => attributeCalls arn held annotated
  | .delegated => []

theorem makesExactly_takeStep
    {attempt : Attempt Failure Value}
    (makes : attempt.MakesExactly tables expected)
    (step : DependentStep)
    (toCause : Failure → Cause) :
    (takeStep step toCause attempt).MakesExactly tables expected :=
  .bind_of_reads (.single trivial) fun _ => makes.mapFailure _

theorem makesExactly_attributesStep
    (controller : Controller)
    (arn : String)
    (annotated : Table String) :
    (controller.attributesStep arn annotated).MakesExactly tables
      (controller.attributeStepCalls arn (tables.attributesOf arn) annotated) := by
  rw [attributesStep, attributeStepCalls]
  cases controller.attributeRoute with
  | direct => exact Convergence.makesExactly_convergeAttributes arn annotated
  | delegated => exact .nothing (.single trivial)

/-- To change attributes leaves every association as it is. -/
theorem associationOf_of_performs
    {arn : String}
    {held annotated : Table String}
    (performs : tables.PerformsAll (controller.attributeStepCalls arn held annotated) after) :
    after.associationOf arn = tables.associationOf arn := by
  have unchanged (nothing : tables.PerformsAll [] after) :
      after.associationOf arn = tables.associationOf arn := by
    rw [CloudTables.PerformsAll.nil_iff.mp nothing]
  rw [attributeStepCalls] at performs
  split at performs
  next =>
    rw [Convergence.attributeCalls_eq] at performs
    split at performs
    next => exact unchanged performs
    next =>
      rcases CloudTables.PerformsAll.singleton_iff.mp performs with ⟨done, performed⟩
      rcases CloudTables.modifyAttributes_eq_ok_iff.mp performed with ⟨-, rfl⟩
      rfl
  next => exact unchanged performs

/-- The steps behind the load balancer change attributes and the firewall policy, and nothing else in the
cloud. -/
theorem makesExactly_convergeDependents :
    (controller.convergeDependents key ingress annotations balancer).MakesExactly tables
      (controller.attributeStepCalls balancer.arn (tables.attributesOf balancer.arn)
          annotations.attributes ++
        webAclCalls balancer.arn (tables.associationOf balancer.arn) annotations.webAclId) := by
  refine .bind (makesExactly_takeStep (controller.makesExactly_attributesStep _ _) _ _)
    fun _ middle performs => ?_
  rw [← associationOf_of_performs performs,
    ← List.append_nil (webAclCalls _ (middle.associationOf _) _)]
  refine .bind (makesExactly_takeStep (Convergence.makesExactly_convergeWebAcl _ _) _ _)
    fun _ _ _ => ?_
  -- The steps that are left ask the cloud for nothing but security groups.
  refine .bind_of_reads (asksOnly_takeStep_collaborator _ _) fun targetGroups => ?_
  refine .bind_of_reads (asksOnly_takeStep_collaborator _ _) fun _ => ?_
  refine .bind_of_reads (asksOnly_takeStep_collaborator _ _) fun _ => ?_
  exact .nothing (asksOnly_takeStep (asksOnly_securityGroupsStep (fun _ => rfl) targetGroups) _ _)

end Controller

end IngressConvergence
