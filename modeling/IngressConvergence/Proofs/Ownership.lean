import IngressConvergence.Proofs.Cloud.Ownership
import IngressConvergence.Proofs.Operation
import IngressConvergence.Proofs.World.Tables

/-!
# Operations touch only what belongs to their ingress

An operation finds its load balancer by name and then goes by handles.  Whatever faults it meets, every
handle that it goes by belongs to the name of its ingress, so that the load balancers of other names
stay as they are, with their attributes and associations.  This is `Controller.spares_others`.
-/

namespace IngressConvergence

namespace World

variable {origin : CloudTables} {name : String} {world : World}

/-- A request of an operation for a name gets the reply that is expected of it, and changes tables for
the name only. -/
theorem changedOnly_answer
    (new : origin.HasNewHandles name)
    {asked : Request}
    {replies : asked.Reply → asked.Reply → Prop}
    (alike : asked.Alike (.ofOwner origin name Eq) asked replies)
    (changed : origin.ChangedOnly world.cloud.tables name) :
    replies (answer asked world).1 (answer asked world).1 ∧
      origin.ChangedOnly (answer asked world).2.cloud.tables name := by
  constructor
  · apply replies_self alike (fun _ => rfl) trivial
    · intro balancer found
      exact changed.owns_of_findByName found
    · intro request balancer after named performed
      rcases CloudTables.create_eq_ok_iff.mp performed with ⟨-, -, built⟩
      cases built
      cases named
      exact changed.owns_next
  · rcases tables_answer asked world with same | ⟨call, answered, rfl, recorded, performed⟩
    · rw [same]
      exact changed
    · cases alike with
      | cloud alike => exact changed.perform alike.concerns new performed

/-- A program for one name changes tables for the name only. -/
theorem changedOnly_run
    {Value : Type}
    {results : Value → Value → Prop}
    {program : Program Value}
    (alike : program.Alike (.ofOwner origin name Eq) results program)
    (new : origin.HasNewHandles name)
    (changed : origin.ChangedOnly world.cloud.tables name) :
    origin.ChangedOnly (program.run answer world).2.cloud.tables name :=
  (alike.keeps rfl answer (fun _ _ _ alike changed => changedOnly_answer new alike changed) world
    changed).1

end World

/-! ## Operations -/

namespace Controller

variable {world : World} {controller : Controller} {operation : Operation} {key : IngressKey}

/-- Whatever an operation comes to, all that belongs to load balancers of other names is as it was, and
so are the inventory and the store. -/
theorem spares_others
    (about : operation.key? = some key)
    (consistent : world.cloud.tables.IsConsistent)
    (new : world.cloud.tables.HasNewHandles (controller.naming.loadBalancerName key)) :
    world.cloud.tables.SparesOthers (world.run (controller.attempt operation)).2.cloud.tables
        (controller.naming.loadBalancerName key) ∧
      (world.run (controller.attempt operation)).2.store = world.store := by
  have alike := controller.alike_attempt_ofOwner about world.cloud.tables Eq
  have changed := World.changedOnly_run alike new (consistent.changedOnly new)
  exact ⟨changed.sparesOthers new, World.store_run _ _⟩

end Controller

/-!
## A cloud that is shared

A load balancer that no ingress owns stands beside the one of an ingress, with an attribute and a
firewall policy of its own.
-/

namespace SharedCloud

/-- A controller that converges attributes itself. -/
def controller : Controller := ⟨.ofConfiguration {}, .direct⟩

/-- The key of the ingress. -/
def key : IngressKey := ⟨IngressKey.defaultNamespace, "shop"⟩

/-- The handle of the load balancer that no ingress owns. -/
def foreignArn : String := LoadBalancer.arnOf "eu-west-1" "legacy" 1

/-- The cloud with the foreign load balancer, its attribute and its firewall policy. -/
def tables : CloudTables :=
  (((CloudTables.empty "eu-west-1").build "legacy" .internal .ipv4 ["subnet-3"]).2.setAttributes
    foreignArn (.ofList [("idle_timeout.timeout_seconds", "30")])).setAssociation foreignArn "guard"

/-- A world with this cloud, in which the ingress asks for the same firewall policy. -/
def world : World :=
  { World.start "eu-west-1" {} with
    cloud := { CloudService.empty "eu-west-1" with tables }
    store := (Store.empty {}).setAnnotations key
      { loadBalancer := { subnets := ["subnet-1"], webAclId := some "guard" } } }

theorem isConsistent : tables.IsConsistent :=
  ((CloudTables.isConsistent_empty "eu-west-1").insert rfl fun _ _ stored => nomatch stored).congr
    rfl

/-- The only load balancer has the first serial number, so that all later ones are new. -/
theorem hasUnusedHandles : tables.HasUnusedHandles := by
  intro name serial ahead
  have differs : LoadBalancer.arnOf "eu-west-1" name serial ≠ foreignArn := by
    intro same
    exact absurd (LoadBalancer.arnOf_inj.mp same).2 (Nat.ne_of_gt ahead)
  constructor
  · exact (Table.lookup_insert _ _ _ _).trans (if_neg differs)
  · exact (Table.lookup_insert _ _ _ _).trans (if_neg differs)
  · exact (Table.lookup_insert _ _ _ _).trans (if_neg differs)

end SharedCloud

/-- A cycle beside the load balancer of someone else leaves that one as it is. -/
theorem Controller.spares_others_sharedCloud :
    SharedCloud.world.cloud.tables.SparesOthers
        (SharedCloud.world.run
          (SharedCloud.controller.attempt (.reconcile ⟨none, some "shop"⟩))).2.cloud.tables
        (SharedCloud.controller.naming.loadBalancerName SharedCloud.key) ∧
      (SharedCloud.world.run
        (SharedCloud.controller.attempt (.reconcile ⟨none, some "shop"⟩))).2.store =
          SharedCloud.world.store :=
  spares_others rfl SharedCloud.isConsistent (SharedCloud.hasUnusedHandles.hasNewHandles _)

end IngressConvergence
