import IngressConvergence.Proofs.Course.Cycle
import IngressConvergence.Proofs.Operation
import IngressConvergence.Proofs.SelfHealing

/-!
# Integrity of what can be reached

From an empty cloud, filled step by step and worked on by cycles and removals with any faults, only
intact tables are reached; this is `Controller.isIntact_of_history`.  Firewall policies are associated
without a check that the load balancer exists, so what has to be shown is that a cycle goes by the handle
of one that does: it was created, or found and patched, and nothing deletes it afterwards.
-/

namespace IngressConvergence

open CloudTables (IsOrderly IsIntact HasKnownWebAcls)

/-! ## The load balancer of a cycle -/

namespace Convergence

variable {desired : DesiredState} {current balancer : LoadBalancer} {tables after : CloudTables}
  {calls : List CloudCall} {result : Except ControllerError LoadBalancer}

theorem isOrderly_of_created
    (orderly : tables.IsOrderly)
    (performed :
      tables.perform (.createLoadBalancer desired.createRequest) = .ok (balancer, after)) :
    after.IsOrderly := by
  refine orderly.perform ?_ performed
  intro arn webAclId same
  cases same

theorem isOrderly_of_deleted
    (orderly : tables.IsOrderly)
    (arn : String) :
    (tables.delete arn).IsOrderly where
  toIsConsistent := orderly.toIsConsistent.erase arn
  toHasNoOrphans := orderly.toHasNoOrphans.delete arn

theorem contains_of_created
    (performed :
      tables.perform (.createLoadBalancer desired.createRequest) = .ok (balancer, after)) :
    after.loadBalancers.contains balancer.arn = true :=
  (Table.contains_iff _ _).mpr ⟨balancer, (realizes_of_created performed).2⟩

/-- However a load balancer is ensured, the tables stay orderly. -/
theorem InstanceCourse.isOrderly
    (course : InstanceCourse desired tables calls result after)
    (orderly : tables.IsOrderly) :
    after.IsOrderly := by
  cases course with
  | notLookedUp error => exact orderly
  | notCreated absent tried error => exact orderly
  | created absent performed => exact isOrderly_of_created orderly performed
  | notDeleted found differs tried error => exact orderly
  | notRecreated found differs tried error => exact isOrderly_of_deleted orderly _
  | recreated found differs performed =>
      exact isOrderly_of_created (isOrderly_of_deleted orderly _) performed
  | patched found sameScheme patches patched asFound => exact patched.isOrderly_of_patches orderly

/-- A load balancer that is ensured exists. -/
theorem InstanceCourse.contains
    (course : InstanceCourse desired tables calls (.ok balancer) after)
    (orderly : tables.IsOrderly) :
    after.loadBalancers.contains balancer.arn = true := by
  cases course with
  | created absent performed => exact contains_of_created performed
  | recreated found differs performed => exact contains_of_created performed
  | patched found sameScheme patches patched asFound =>
      cases asFound balancer rfl
      rcases (orderly.findByName_eq_some_iff _ _).mp found with ⟨stored, -⟩
      rcases patched.exists_continued stored with ⟨kept, storedKept, -⟩
      exact (Table.contains_iff _ _).mpr ⟨kept, storedKept⟩

end Convergence

/-! ## Operations -/

namespace Controller

variable {desired : DesiredState} {tables after : CloudTables} {calls : List CloudCall}

theorem ProvideCourse.isOrderly
    {result : Except ControllerError LoadBalancerStatus}
    (course : ProvideCourse desired tables calls result after)
    (orderly : tables.IsOrderly) :
    after.IsOrderly := by
  cases course with
  | stopped instances => exact instances.isOrderly orderly
  | wentOn instances attaches attached told =>
      exact attached.isOrderly_of_attachesTo (instances.contains orderly)
        (instances.isOrderly orderly)

theorem RemovalCourse.isOrderly
    {name : String}
    {result : Except ControllerError Unit}
    (course : RemovalCourse name tables result after)
    (orderly : tables.IsOrderly) :
    after.IsOrderly := by
  cases course with
  | failed error => exact orderly
  | nothing absent => exact orderly
  | removed found => exact Convergence.isOrderly_of_deleted orderly _

/-- Whatever an operation comes to, orderly tables stay orderly. -/
theorem isOrderly_attempt
    (controller : Controller)
    (operation : Operation)
    {world : World}
    (orderly : world.cloud.tables.IsOrderly) :
    (world.run (controller.attempt operation)).2.cloud.tables.IsOrderly := by
  cases operation with
  | delete key => exact (removalCourse_of_run world controller key).isOrderly orderly
  | reconcile ingress =>
      show (world.run (controller.reconcile ingress)).2.cloud.tables.IsOrderly
      rcases world.run_reconcile_cases controller ingress with
        ⟨error, -, unchanged⟩ | ⟨key, annotations, subnets, calls, proceeds⟩
      · rw [unchanged.tables]
        exact orderly
      · exact proceeds.course.isOrderly orderly

end Controller

/-- A run of any attempt associates registered firewall policies only. -/
theorem World.hasKnownWebAcls_run
    {Failure Value : Type}
    (attempt : Attempt Failure Value)
    {world : World}
    (known : world.cloud.tables.HasKnownWebAcls) :
    (world.run attempt).2.cloud.tables.HasKnownWebAcls :=
  World.tables_invariant (fun _ _ _ _ holds performed => holds.perform performed) attempt known

/-! ## Histories -/

/-- What may happen between operations: the cloud is filled by a step, and the store, the faults that
wait, the context and the time change in any way. -/
def World.Prepares
    (world later : World) : Prop :=
  world.cloud.tables.Filled later.cloud.tables

namespace Controller

variable {controller : Controller} {region : String} {configuration : Configuration}
  {history : List (World × Operation)} {last : World}

/-- Whatever is filled into an empty cloud and whatever operations come to there, its tables are
intact. -/
theorem isIntact_of_history
    (reached :
      controller.History World.Prepares (World.start region configuration) history last) :
    last.cloud.tables.IsIntact := by
  induction reached with
  | start => exact CloudTables.isIntact_empty region
  | @operate history world earlier operation ih =>
      exact
        { controller.isOrderly_attempt operation ih.toIsOrderly with
          knownWebAcls := World.hasKnownWebAcls_run _ ih.knownWebAcls }
  | meanwhile earlier prepared ih => exact prepared.isIntact ih

end Controller

/-! ## A stale cloud, as it is reached -/

namespace StaleCloud

/-- The world after the cycle that repairs the load balancer. -/
def repaired : World :=
  (world.run (controller.attempt (.reconcile ingress))).2

/-- The cloud is filled in three steps, of which the last also brings the annotations; then its load
balancer is repaired and removed. -/
theorem reached :
    controller.History World.Prepares (World.start "eu-west-1" {})
      [(world, .reconcile ingress), (repaired, .delete key)]
      (repaired.run (controller.attempt (.delete key))).2 := by
  rw [repaired]
  let begun := World.start "eu-west-1" {}
  let withSubnet := begun.changeTables (·.addNamedSubnet "blue" "subnet-1")
  let withWebAcl := withSubnet.changeTables (·.addWebAcl "guard")
  have subnet : begun.Prepares withSubnet := .namedSubnet "blue" "subnet-1"
  have webAcl : withSubnet.Prepares withWebAcl := .webAcl "guard"
  have stale : withWebAcl.Prepares world := .loadBalancer fun _ _ stored => nomatch stored
  exact (((Controller.History.start.meanwhile subnet).meanwhile webAcl).meanwhile stale).operate
    (.reconcile ingress) |>.operate (.delete key)

end StaleCloud

/-- The removal after the repair of a load balancer leaves intact tables. -/
theorem Controller.isIntact_of_history_staleCloud :
    (StaleCloud.repaired.run
      (StaleCloud.controller.attempt (.delete StaleCloud.key))).2.cloud.tables.IsIntact :=
  isIntact_of_history StaleCloud.reached

end IngressConvergence
