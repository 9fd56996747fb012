import IngressConvergence.Proofs.Integrity
import IngressConvergence.Proofs.Ownership
import IngressConvergence.Proofs.World.Success

/-!
# Removals leave nothing behind

After any number of cycles for an ingress, and of removals that failed, a removal that succeeds leaves
exactly what belongs to load balancers of other names: no load balancer of the ingress, and no attribute
and no association of any that it had on the way.  The load balancer is deleted last, a removal that fails
leaves the tables as they are, and one that nothing disturbs succeeds.  This is
`Controller.delete_leaves_nothing`.
-/

namespace IngressConvergence

/-- What may happen between operations: anything but a change to the tables of the cloud. -/
def World.KeepsTables
    (world later : World) : Prop :=
  later.cloud.tables = world.cloud.tables

/-! ## What is left -/

namespace CloudTables

variable {origin tables after : CloudTables} {name : String}

/-- A load balancer of another name is stored under a handle. -/
def KeepsForeign
    (tables : CloudTables)
    (name arn : String) : Prop :=
  ∃ balancer, tables.loadBalancers.lookup arn = some balancer ∧ balancer.name ≠ name

/-- What is left of tables without all that belongs to a name: exactly the load balancers of other
names with their attributes and associations, and the inventory. -/
structure LeavesOnlyForeign
    (tables after : CloudTables)
    (name : String) : Prop where
  absent : after.findByName name = none
  loadBalancers :
    ∀ arn balancer,
      after.loadBalancers.lookup arn = some balancer ↔
        tables.loadBalancers.lookup arn = some balancer ∧ balancer.name ≠ name
  attributes :
    ∀ arn attributes,
      after.attributes.lookup arn = some attributes ↔
        tables.attributes.lookup arn = some attributes ∧ tables.KeepsForeign name arn
  associations :
    ∀ arn webAclId,
      after.associations.lookup arn = some webAclId ↔
        tables.associations.lookup arn = some webAclId ∧ tables.KeepsForeign name arn
  inventory : SameInventory tables after

/-- Orderly tables that changed for one name only, and have no load balancer of that name any more, have
lost exactly what belonged to it. -/
theorem ChangedOnly.leavesOnlyForeign
    (changed : origin.ChangedOnly after name)
    (new : origin.HasNewHandles name)
    (orderly : after.IsOrderly)
    (absent : after.findByName name = none) :
    origin.LeavesOnlyForeign after name := by
  have spares := changed.sparesOthers new
  have foreign := (findByName_eq_none_iff name).mp absent
  -- Without orphans, whatever is still kept is kept for a load balancer of another name.
  have keepsForeign (arn : String) (present : after.loadBalancers.contains arn = true) :
      origin.KeepsForeign name arn := by
    rcases (Table.contains_iff _ _).mp present with ⟨balancer, stored⟩
    have differs := foreign arn balancer stored
    exact ⟨balancer, (spares.loadBalancers arn balancer differs).mp stored, differs⟩
  refine ⟨absent, ?_, ?_, ?_, changed.inventory⟩
  · intro arn balancer
    constructor
    · intro stored
      have differs := foreign arn balancer stored
      exact ⟨(spares.loadBalancers arn balancer differs).mp stored, differs⟩
    · rintro ⟨stored, differs⟩
      exact (spares.loadBalancers arn balancer differs).mpr stored
  · intro arn attributes
    constructor
    · intro kept
      have present := orderly.attributes arn ((Table.contains_iff _ _).mpr ⟨attributes, kept⟩)
      rcases keepsForeign arn present with ⟨balancer, stored, differs⟩
      rw [spares.attributes arn balancer stored differs] at kept
      exact ⟨kept, balancer, stored, differs⟩
    · rintro ⟨kept, balancer, stored, differs⟩
      exact (spares.attributes arn balancer stored differs).trans kept
  · intro arn webAclId
    constructor
    · intro kept
      have present := orderly.associations arn ((Table.contains_iff _ _).mpr ⟨webAclId, kept⟩)
      rcases keepsForeign arn present with ⟨balancer, stored, differs⟩
      rw [spares.associations arn balancer stored differs] at kept
      exact ⟨kept, balancer, stored, differs⟩
    · rintro ⟨kept, balancer, stored, differs⟩
      exact (spares.associations arn balancer stored differs).trans kept

end CloudTables

/-! ## What comes before the deletion -/

namespace Controller

variable {State : Type} {controller : Controller} {key : IngressKey}

/-- What was asked before a load balancer is deleted: it was found, and the removals of its security
groups, its listeners and the target groups were asked for in this order; all of it was accepted. -/
structure ComesAfterDependents
    (controller : Controller)
    (key : IngressKey)
    (arn : String)
    (earlier : List (Exchange State)) : Prop where
  accepted : ∀ exchange ∈ earlier, exchange.refusal? = none
  inOrder :
    ∃ balancer : LoadBalancer, balancer.arn = arn ∧
      earlier.flatMap (fun exchange => exchange.asked.effects) =
        [.cloud (.findLoadBalancer (controller.naming.loadBalancerName key)),
          .collaborator (.deleteSecurityGroups (.forDeletion key balancer.name arn)),
          .collaborator (.deleteListeners arn),
          .collaborator (.deleteTargetGroups key)]

section

variable (answer : (asked : Request) → State → asked.Reply × State) {state : State}
  {earlier later : List (Exchange State)} {asks : Exchange State} {arn : String}

/-- A removal that goes on to the deletion of a load balancer removed all that depends on it. -/
theorem inOrder_of_teardown
    {balancer : LoadBalancer}
    {name : String}
    (split :
      (ExceptT.run ((teardown key balancer).reporting (removalReport name key))).transcript answer
          state = earlier ++ asks :: later)
    (accepted : ∀ exchange ∈ earlier, exchange.refusal? = none)
    (deletes : asks.asked = .cloud (.deleteLoadBalancer arn)) :
    balancer.arn = arn ∧
      earlier.flatMap (fun exchange => exchange.asked.effects) =
        [.collaborator (.deleteSecurityGroups (.forDeletion key balancer.name balancer.arn)),
          .collaborator (.deleteListeners balancer.arn),
          .collaborator (.deleteTargetGroups key)] := by
  have differs (other : Request) (isOther : .cloud (.deleteLoadBalancer arn) ≠ other) :
      asks.asked ≠ other := deletes ▸ isOther
  rcases Program.exists_accepted_of_split answer split accepted (differs _ nofun) with
    ⟨error | detached, afterGroups, rest, rfl, accepts, restAccepted, restSplit⟩
  · cases accepts
  rcases Program.exists_accepted_of_split answer restSplit restAccepted (differs _ nofun) with
    ⟨error | removed, afterListeners, rest, rfl, accepts, restAccepted, restSplit⟩
  · cases accepts
  rcases Program.exists_accepted_of_split answer restSplit restAccepted (differs _ nofun) with
    ⟨error | removed, afterTargets, rest, rfl, accepts, restAccepted, restSplit⟩
  · cases accepts
  rcases Program.exists_accepted_of_split answer restSplit restAccepted (differs _ nofun) with
    ⟨done, reported, rest, rfl, accepts, restAccepted, restSplit⟩
  rcases Program.split_cases answer restSplit restAccepted with
    ⟨rfl, isDeletion⟩ | ⟨error | deleted, afterDeletion, rest, rfl, accepts, restAccepted, restSplit⟩
  · cases deletes.symm.trans isDeletion
    exact ⟨rfl, rfl⟩
  · cases accepts
  · -- The deletion is the last call: what follows it is a report.
    rcases Program.exists_accepted_of_split answer restSplit restAccepted (differs _ nofun) with
      ⟨done, last, rest, rfl, accepts, restAccepted, restSplit⟩
    simp [removalReport] at restSplit

/-- A load balancer is deleted only after all that depends on it. -/
theorem comesAfterDependents_of_split
    (split :
      (ExceptT.run (controller.delete key)).transcript answer state = earlier ++ asks :: later)
    (deletes : asks.asked = .cloud (.deleteLoadBalancer arn)) :
    controller.ComesAfterDependents key arn earlier := by
  have differs (other : Request) (isOther : .cloud (.deleteLoadBalancer arn) ≠ other) :
      asks.asked ≠ other := deletes ▸ isOther
  have accepted :=
    (controller.failsFast_delete key).refusal?_eq_none_before answer state split
      fun event => differs _ nofun
  refine ⟨accepted, ?_⟩
  rcases Program.exists_accepted_of_split answer split accepted (differs _ nofun) with
    ⟨error | none | balancer, found, rest, rfl, accepts, restAccepted, restSplit⟩
  · cases accepts
  · rcases Program.exists_accepted_of_split answer restSplit restAccepted (differs _ nofun) with
      ⟨done, last, rest, rfl, accepts, restAccepted, restSplit⟩
    simp at restSplit
  · rcases inOrder_of_teardown answer restSplit restAccepted deletes with ⟨rfl, inOrder⟩
    exact ⟨balancer, rfl, congrArg _ inOrder⟩

end

/-! ## Removals that nothing disturbs -/

theorem yields_teardown
    (calm : CalmWorld)
    (key : IngressKey)
    (balancer : LoadBalancer) :
    ∃ after, calm.Yields (teardown key balancer) () after :=
  ⟨_, rfl⟩

/-- In a calm world a removal succeeds, whether or not there is a load balancer. -/
theorem yields_delete
    (calm : CalmWorld)
    (controller : Controller)
    (key : IngressKey) :
    ∃ after, calm.Yields (controller.delete key) () after := by
  let lookup : CloudCall := .findLoadBalancer (controller.naming.loadBalancerName key)
  have performed : calm.tables.perform lookup = .ok (_, calm.tables) := rfl
  cases found : calm.tables.findByName (controller.naming.loadBalancerName key) with
  | none =>
      rw [found] at performed
      exact ⟨_, CalmWorld.yields_cloud_bind_iff.mpr
        ⟨none, _, performed, CalmWorld.yields_report_iff.mpr rfl⟩⟩
  | some balancer =>
      rw [found] at performed
      rcases yields_teardown (calm.served lookup calm.tables) key balancer with ⟨after, removes⟩
      exact ⟨after, CalmWorld.yields_cloud_bind_iff.mpr
        ⟨some balancer, _, performed, CalmWorld.yields_reporting_iff.mpr removes⟩⟩

theorem delete_eq_ok_of_undisturbed
    {world : World}
    (undisturbed : world.Undisturbed (controller.delete key)) :
    (world.run (controller.delete key)).1 = .ok () := by
  rcases yields_delete world.calm controller key with ⟨after, removes⟩
  exact (undisturbed.runsAs world.matches_calm).eq_ok_of_yields removes

/-! ## Nothing to remove -/

/-- A removal that has nothing to remove: it asks for the load balancer and for nothing else, changes
nothing, and succeeds unless the lookup fails. -/
structure HasNothingToRemove
    (controller : Controller)
    (key : IngressKey)
    (world : World) : Prop where
  asked :
    ((ExceptT.run (controller.delete key)).transcript World.answer world).flatMap
        (fun exchange => exchange.asked.effects) =
      [.cloud (.findLoadBalancer (controller.naming.loadBalancerName key))]
  tables : (world.run (controller.delete key)).2.cloud.tables = world.cloud.tables
  result :
    (world.run (controller.delete key)).1 = .ok () ∨
      ∃ error,
        (world.cloudCall (.findLoadBalancer (controller.naming.loadBalancerName key))).1 =
            .error error ∧
          (world.run (controller.delete key)).1 =
            .error (.lookup (controller.naming.loadBalancerName key) error)

/-- A removal begins with the lookup; it ends there if the lookup fails or finds nothing, and else it goes
on with what was found. -/
theorem exists_delete_eq_request
    (controller : Controller)
    (key : IngressKey) :
    ∃ next,
      ExceptT.run (controller.delete key) =
          .request (.cloud (.findLoadBalancer (controller.naming.loadBalancerName key))) next ∧
        (∀ error, next (Except.error error) =
          .done (.error (.lookup (controller.naming.loadBalancerName key) error))) ∧
        next (Except.ok none) =
            .request (.report (.nothingToDelete (controller.naming.loadBalancerName key) key))
              (fun _ => .done (.ok ())) ∧
        ∀ balancer : LoadBalancer,
          next (Except.ok (some balancer)) =
            ExceptT.run ((teardown key balancer).reporting
              (removalReport (controller.naming.loadBalancerName key) key)) :=
  ⟨_, rfl, fun _ => rfl, rfl, fun _ => rfl⟩

/-- Where no load balancer is found, a removal asks for no more than that. -/
theorem hasNothingToRemove
    {world : World}
    (absent : world.cloud.tables.findByName (controller.naming.loadBalancerName key) = none) :
    controller.HasNothingToRemove key world := by
  rcases controller.exists_delete_eq_request key with ⟨next, opened, failed, nothing, -⟩
  let lookup : CloudCall := .findLoadBalancer (controller.naming.loadBalancerName key)
  rcases called : world.cloudCall lookup with ⟨reply, after⟩
  have answered : World.answer (.cloud lookup) world = (reply, after) := called
  have tables := world.cloudCall_tables lookup
  rw [called] at tables
  rcases tables with ⟨error, rfl, same⟩ | ⟨found, rfl, -, performed⟩
  · constructor
    · rw [opened, Program.transcript_request, answered, failed]
      rfl
    · rw [World.run, opened, Program.run_request, answered, failed]
      exact same
    · refine .inr ⟨error, congrArg Prod.fst called, ?_⟩
      rw [World.run, opened, Program.run_request, answered, failed]
      rfl
  · rcases Prod.mk.inj (Except.ok.inj performed) with ⟨isFound, same⟩
    cases absent.symm.trans isFound
    constructor
    · rw [opened, Program.transcript_request, answered, nothing]
      rfl
    · rw [World.run, opened, Program.run_request, answered, nothing]
      exact same.symm
    · left
      rw [World.run, opened, Program.run_request, answered, nothing]
      rfl

/-! ## Removals after a history -/

section

variable {start world : World} {history : List (World × Operation)}

/-- After a removal that succeeds no load balancer has the name. -/
theorem RemovalCourse.findByName_eq_none
    {name : String}
    {tables after : CloudTables}
    (course : RemovalCourse name tables (.ok ()) after)
    (consistent : tables.IsConsistent) :
    after.findByName name = none := by
  cases course with
  | nothing absent => exact absent
  | removed found => exact Convergence.findByName_delete_eq_none consistent found

theorem RemovalCourse.eq_of_error
    {name : String}
    {tables after : CloudTables}
    {error : ControllerError}
    (course : RemovalCourse name tables (.error error) after) :
    after = tables := by
  cases course
  rfl

/-- Operations about one ingress change what belongs to its name only, and keep the tables orderly. -/
theorem changedOnly_of_history
    (reached : controller.History World.KeepsTables start history world)
    (about : ∀ entry ∈ history, entry.2.key? = some key)
    (orderly : start.cloud.tables.IsOrderly)
    (new : start.cloud.tables.HasNewHandles (controller.naming.loadBalancerName key)) :
    start.cloud.tables.ChangedOnly world.cloud.tables (controller.naming.loadBalancerName key) ∧
      world.cloud.tables.IsOrderly := by
  induction reached with
  | start => exact ⟨orderly.toIsConsistent.changedOnly new, orderly⟩
  | @operate history world earlier operation ih =>
      rcases ih fun entry member => about entry (List.mem_append_left _ member) with
        ⟨changed, keptOrderly⟩
      have aboutToo : operation.key? = some key :=
        about (world, operation) (List.mem_append_right _ List.mem_cons_self)
      have alike := controller.alike_attempt_ofOwner aboutToo start.cloud.tables Eq
      exact ⟨World.changedOnly_run alike new changed,
        controller.isOrderly_attempt operation keptOrderly⟩
  | meanwhile earlier kept ih =>
      rw [kept]
      exact ih about

/-- What a removal comes to, whatever faults it meets, when the tables were at first as given. -/
structure RemovesCleanly
    (controller : Controller)
    (key : IngressKey)
    (origin : CloudTables)
    (world : World) : Prop where
  succeeded :
    (world.run (controller.delete key)).1 = .ok () →
      origin.LeavesOnlyForeign (world.run (controller.delete key)).2.cloud.tables
        (controller.naming.loadBalancerName key)
  failed :
    ∀ error, (world.run (controller.delete key)).1 = .error error →
      (world.run (controller.delete key)).2.cloud.tables = world.cloud.tables
  inOrder :
    ∀ earlier (asks : Exchange World) later arn,
      (ExceptT.run (controller.delete key)).transcript World.answer world =
          earlier ++ asks :: later →
        asks.asked = .cloud (.deleteLoadBalancer arn) →
          controller.ComesAfterDependents key arn earlier
  completes :
    world.Undisturbed (controller.delete key) → (world.run (controller.delete key)).1 = .ok ()
  idle :
    world.cloud.tables.findByName (controller.naming.loadBalancerName key) = none →
      controller.HasNothingToRemove key world

/-- After any operations about an ingress, of which any may have failed, a removal that succeeds leaves
exactly what belonged to load balancers of other names at first; a removal that fails changes nothing, and
one that nothing disturbs succeeds. -/
theorem delete_leaves_nothing
    (reached : controller.History World.KeepsTables start history world)
    (about : ∀ entry ∈ history, entry.2.key? = some key)
    (orderly : start.cloud.tables.IsOrderly)
    (new : start.cloud.tables.HasNewHandles (controller.naming.loadBalancerName key)) :
    controller.RemovesCleanly key start.cloud.tables world := by
  rcases changedOnly_of_history reached about orderly new with ⟨changed, keptOrderly⟩
  have course := removalCourse_of_run world controller key
  refine ⟨?_, ?_, ?_, delete_eq_ok_of_undisturbed, hasNothingToRemove⟩
  · intro succeeds
    rw [succeeds] at course
    have isAbout : (Operation.delete key).key? = some key := rfl
    have alike := controller.alike_attempt_ofOwner isAbout start.cloud.tables Eq
    exact (World.changedOnly_run alike new changed).leavesOnlyForeign new
      (controller.isOrderly_attempt (.delete key) keptOrderly)
      (course.findByName_eq_none keptOrderly.toIsConsistent)
  · intro error fails
    rw [fails] at course
    exact course.eq_of_error
  · intro earlier asks later arn split deletes
    exact comesAfterDependents_of_split World.answer split deletes

end

end Controller

/-! ## A removal beside the load balancer of someone else -/

namespace SharedCloud

/-- The ingress whose load balancer stands beside the foreign one. -/
def ingress : Ingress := ⟨none, some "shop"⟩

theorem isFaultless : world.IsFaultless := ⟨rfl, rfl, rfl, rfl⟩

/-- The cloud is filled in three steps. -/
theorem isOrderly : tables.IsOrderly := by
  let empty := CloudTables.empty "eu-west-1"
  let alone := (empty.build "legacy" .internal .ipv4 ["subnet-3"]).2
  have built : empty.Filled alone := .built rfl _ _ _
  have exist : alone.loadBalancers.contains foreignArn = true :=
    (Table.contains_insert _ _ _ _).mpr (.inl rfl)
  let withAttributes :=
    alone.setAttributes foreignArn (.ofList [("idle_timeout.timeout_seconds", "30")])
  have attributes : alone.Filled withAttributes := .attributes exist _
  have stillExist : withAttributes.loadBalancers.contains foreignArn = true := exist
  have association : withAttributes.Filled tables := .association stillExist "guard"
  have intact := built.isIntact (CloudTables.isIntact_empty "eu-west-1")
  exact (association.isIntact (attributes.isIntact intact)).toIsOrderly

/-- The world after a cycle for the ingress. -/
def provided : World :=
  (world.run (controller.attempt (.reconcile ingress))).2

theorem reached :
    controller.History World.KeepsTables world [(world, .reconcile ingress)] provided := by
  rw [provided]
  exact Controller.History.start.operate (.reconcile ingress)

theorem isFaultless_provided : provided.IsFaultless := by
  rw [provided]
  exact isFaultless.run _

end SharedCloud

/-- A cycle and then a removal leave exactly the load balancer of someone else. -/
theorem Controller.delete_leaves_nothing_sharedCloud :
    (SharedCloud.provided.run (SharedCloud.controller.delete SharedCloud.key)).1 = .ok () ∧
      SharedCloud.tables.LeavesOnlyForeign
        (SharedCloud.provided.run (SharedCloud.controller.delete SharedCloud.key)).2.cloud.tables
        (SharedCloud.controller.naming.loadBalancerName SharedCloud.key) := by
  have about : ∀ entry ∈ [(SharedCloud.world, Operation.reconcile SharedCloud.ingress)],
      entry.2.key? = some SharedCloud.key := by
    intro entry member
    cases List.mem_singleton.mp member
    rfl
  have removes :=
    delete_leaves_nothing SharedCloud.reached about SharedCloud.isOrderly
      (SharedCloud.hasUnusedHandles.hasNewHandles _)
  have succeeds := removes.completes (SharedCloud.isFaultless_provided.undisturbed _)
  exact ⟨succeeds, removes.succeeded succeeds⟩

end IngressConvergence
