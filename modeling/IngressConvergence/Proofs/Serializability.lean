import IngressConvergence.Proofs.Naming
import IngressConvergence.Proofs.Ownership
import IngressConvergence.Proofs.World.Shared

/-!
# Operations for different ingresses are serializable

Two operations for ingresses whose load balancers have different names run at once, with their requests
interleaved in any way.  Without faults and under live contexts both come to the results, and leave the
tables, that they come to one after the other, but for the serial numbers of what they build.  This is
`Controller.serializable`.  The proof compares each interleaving with the runs that both operations have
in worlds of their own, and so every interleaving with the one in which the first operation is run to its
end and then the second.
-/

namespace IngressConvergence

/-! ## Two interleavings -/

/-- Serial numbers that correspond in one of two renamings. -/
def CloudTables.Either
    (renamed renamed' : Nat → Nat → Prop)
    (serial serial' : Nat) : Prop :=
  renamed serial serial' ∨ renamed' serial serial'

/-- Renamings of different serial numbers make one renaming. -/
theorem CloudTables.IsRenaming.either
    {origin : CloudTables}
    {renamed renamed' : Nat → Nat → Prop}
    (isRenaming : origin.IsRenaming renamed)
    (isRenaming' : origin.IsRenaming renamed')
    (apart : ∀ serial first second, renamed serial first → ¬ renamed' serial second)
    (apart' : ∀ serial first second, renamed first serial → ¬ renamed' second serial) :
    origin.IsRenaming (Either renamed renamed') where
  biUnique := by
    constructor
    · rintro serial other common (related | related) (relatedToo | relatedToo)
      · exact isRenaming.biUnique.1 related relatedToo
      · exact absurd relatedToo (apart' _ _ _ related)
      · exact absurd related (apart' _ _ _ relatedToo)
      · exact isRenaming'.biUnique.1 related relatedToo
    · rintro serial common other (related | related) (relatedToo | relatedToo)
      · exact isRenaming.biUnique.2 related relatedToo
      · exact absurd relatedToo (apart _ _ _ related)
      · exact absurd related (apart _ _ _ relatedToo)
      · exact isRenaming'.biUnique.2 related relatedToo
  left := by
    rintro serial serial' (related | related)
    · exact isRenaming.left _ _ related
    · exact isRenaming'.left _ _ related
  right := by
    rintro serial serial' (related | related)
    · exact isRenaming.right _ _ related
    · exact isRenaming'.right _ _ related

namespace CalmWorld

open CloudTables (Common Either)

variable {origin : CloudTables} {name other : String}
  {renamed renamed' renames renames' : Nat → Nat → Prop} {last last' alone alone' : CalmWorld}

namespace Shares

/-- Two interleavings of the same runs number what they build one to one. -/
theorem isRenaming
    (shares : Shares origin name other renamed renamed' last alone alone')
    (shares' : Shares origin name other renames renames' last' alone alone') :
    origin.IsRenaming (Either (Common renamed renames) (Common renamed' renames')) := by
  apply CloudTables.IsRenaming.either
  · exact shares.first.isRenaming.common shares'.first.isRenaming
  · exact shares.second.isRenaming.common shares'.second.isRenaming
  · rintro serial first second ⟨common, related, -⟩ ⟨common', related', -⟩
    exact shares.apart _ _ _ related related'
  · rintro serial first second ⟨common, -, related⟩ ⟨common', -, related'⟩
    exact shares'.apart _ _ _ related related'

/-- What the first of two runs did is the same in both interleavings but for serial numbers. -/
theorem renamesWithin
    (shares : Shares origin name other renamed renamed' last alone alone')
    (shares' : Shares origin name other renames renames' last' alone alone')
    (unused : origin.HasUnusedHandles)
    {wider : Nat → Nat → Prop}
    (isWider : origin.IsRenaming wider)
    (same : wider = Either (Common renamed renames) (Common renamed' renames')) :
    origin.RenamesWithin wider (origin.Owns name) last.tables last'.tables := by
  have within := shares.first.own.comp unused shares.first.isRenaming shares'.first.isRenaming
    shares'.first.own
  subst same
  apply within.widen unused isWider
  · exact fun serial serial' related => .inl related
  · rintro serial serial' (related | ⟨common, related, related'⟩)
    · exact .inl related
    -- What the second run built has no counterpart among what the first run built.
    · refine .inr fun other => ⟨?_, ?_⟩
      · rintro ⟨common', before, -⟩
        exact shares.apart _ _ _ before related
      · rintro ⟨common', -, before⟩
        exact shares'.apart _ _ _ before related'

/-- What belongs to neither run is as it was in both interleavings. -/
theorem renamesWithin_foreign
    (shares : Shares origin name other renamed renamed' last alone alone')
    (shares' : Shares origin name other renames renames' last' alone alone')
    (unused : origin.HasUnusedHandles)
    (keyed : origin.IsKeyedByArn)
    {wider : Nat → Nat → Prop}
    (isWider : origin.IsRenaming wider) :
    origin.RenamesWithin wider (fun arn => ¬ origin.Owns name arn ∧ ¬ origin.Owns other arn)
      last.tables last'.tables where
  slots := by
    rintro arn arn' ⟨notName, notOther⟩ handle
    have notName' : ¬ origin.Owns name arn' :=
      fun owns => notName (handle.symm.owns unused isWider.symm owns)
    have notOther' : ¬ origin.Owns other arn' :=
      fun owns => notOther (handle.symm.owns unused isWider.symm owns)
    have same := shares.foreign arn notName notOther
    have same' := shares'.foreign arn' notName' notOther'
    cases handle with
    | old isOld => exact (CloudTables.RenamesSlot.of_isOld keyed isOld).of_sameSlot same same'
    | new third related =>
        apply CloudTables.RenamesSlot.of_isUnused
        · exact (unused third _ (isWider.left _ _ related)).of_sameSlot same
        · exact (unused third _ (isWider.right _ _ related)).of_sameSlot same'
  left := by
    rintro arn ⟨notName, notOther⟩ absent
    have notOld : ¬ origin.IsOld arn := fun isOld => absent arn (.old isOld)
    rcases CloudTables.exists_eq_arnOf notOld with ⟨third, serial, ahead, rfl⟩
    exact (unused third serial ahead).of_sameSlot (shares.foreign _ notName notOther)
  right := by
    rintro arn ⟨notName, notOther⟩ absent
    have notOld : ¬ origin.IsOld arn := fun isOld => absent arn (.old isOld)
    rcases CloudTables.exists_eq_arnOf notOld with ⟨third, serial, ahead, rfl⟩
    exact (unused third serial ahead).of_sameSlot (shares'.foreign _ notName notOther)

/-- Two interleavings of the same runs leave tables that are the same but for serial numbers. -/
theorem sameButRenamed
    (shares : Shares origin name other renamed renamed' last alone alone')
    (shares' : Shares origin name other renames renames' last' alone alone')
    (unused : origin.HasUnusedHandles)
    (keyed : origin.IsKeyedByArn) :
    origin.SameButRenamed (Either (Common renamed renames) (Common renamed' renames')) last.tables
      last'.tables := by
  have isWider := shares.isRenaming shares'
  have swapped :
      Either (Common renamed renames) (Common renamed' renames') =
        Either (Common renamed' renames') (Common renamed renames) := by
    funext serial serial'
    exact propext or_comm
  have first := shares.renamesWithin shares' unused isWider rfl
  have second := shares.symm.renamesWithin shares'.symm unused isWider swapped
  have foreign := shares.renamesWithin_foreign shares' unused keyed isWider
  constructor
  · exact shares.first.left.inventory.symm.trans shares'.first.left.inventory
  · have counted := shares.counted
    have counted' := shares'.counted
    omega
  · exact first.everywhere second foreign

end Shares

end CalmWorld

/-! ## Results -/

/-- Results that correspond to a common one correspond. -/
theorem Corresponds.comp
    {Failure Failure' FailureCommon Value Value' ValueCommon : Type}
    {failures : Failure → FailureCommon → Prop}
    {failures' : Failure' → FailureCommon → Prop}
    {bothFailures : Failure → Failure' → Prop}
    {values : Value → ValueCommon → Prop}
    {values' : Value' → ValueCommon → Prop}
    {bothValues : Value → Value' → Prop}
    (joinFailures :
      ∀ failure failure' common, failures failure common → failures' failure' common →
        bothFailures failure failure')
    (joinValues :
      ∀ value value' common, values value common → values' value' common → bothValues value value')
    {result : Except Failure Value}
    {result' : Except Failure' Value'}
    {common : Except FailureCommon ValueCommon}
    (alike : Corresponds failures values result common)
    (alike' : Corresponds failures' values' result' common) :
    Corresponds bothFailures bothValues result result' := by
  cases alike with
  | ok alike =>
      cases alike' with
      | ok alike' => exact .ok (joinValues _ _ _ alike alike')
  | error alike =>
      cases alike' with
      | error alike' => exact .error (joinFailures _ _ _ alike alike')

namespace Operation

open CloudTables (Common)

theorem sameOutcome_of_common
    {same same' both : LoadBalancerStatus → LoadBalancerStatus → Prop}
    (join : ∀ status status' common, same status common → same' status' common → both status status')
    {operation : Operation}
    {outcome outcome' common : operation.Outcome}
    (alike : operation.SameOutcome same outcome common)
    (alike' : operation.SameOutcome same' outcome' common) :
    operation.SameOutcome both outcome outcome' := by
  cases operation with
  | reconcile ingress => exact join _ _ _ alike alike'
  | delete key => trivial

/-- Results of an operation that are the same but for the serial numbers of what was built since an
origin: it comes to the same outcome, or it fails alike. -/
def SameResult
    (operation : Operation)
    (origin : CloudTables)
    (renamed : Nat → Nat → Prop) :
    Except ControllerError operation.Outcome → Except ControllerError operation.Outcome → Prop :=
  Corresponds (ControllerError.Alike (origin.RenamesHandle renamed))
    (operation.SameOutcome (origin.Renames renamed))

/-- Results that correspond to the same result are the same but for serial numbers. -/
theorem sameResult_of_common
    {operation : Operation}
    {origin : CloudTables}
    {name : String}
    {renamed renamed' wider : Nat → Nat → Prop}
    (isRenaming : origin.IsRenaming renamed)
    (isRenaming' : origin.IsRenaming renamed')
    (included : Common renamed renamed' ≤ wider)
    {result result' common : Except ControllerError operation.Outcome}
    (alike :
      Corresponds (origin.likenessFor name renamed).errors
        (operation.SameOutcome (origin.Renames renamed)) result common)
    (alike' :
      Corresponds (origin.likenessFor name renamed').errors
        (operation.SameOutcome (origin.Renames renamed')) result' common) :
    operation.SameResult origin wider result result' := by
  refine alike.comp ?_ ?_ alike'
  · intro error error' common alikeErrors alikeErrors'
    apply alikeErrors.comp _ alikeErrors'
    intro arn arn' common same same'
    have handle := CloudTables.renamesHandle_iff.mpr same
    have handle' := CloudTables.renamesHandle_iff.mpr same'
    exact (handle.comp isRenaming isRenaming' handle').mono included
  · intro outcome outcome' common sameOutcomes sameOutcomes'
    apply sameOutcome_of_common _ sameOutcomes sameOutcomes'
    intro status status' common renames renames'
    exact (renames.comp isRenaming isRenaming' renames').mono included

end Operation

/-! ## Operations -/

namespace Controller

variable {controller : Controller} {operation operation' : Operation} {key key' : IngressKey}

/-- Two interleavings of the requests of two operations in a calm world come to the same but for serial
numbers. -/
theorem exists_renaming
    {calm last last' : CalmWorld}
    {first second : Except ControllerError operation.Outcome}
    {first' second' : Except ControllerError operation'.Outcome}
    (consistent : calm.tables.IsConsistent)
    (unused : calm.tables.HasUnusedHandles)
    (about : operation.key? = some key)
    (about' : operation'.key? = some key')
    (differ : controller.naming.loadBalancerName key ≠ controller.naming.loadBalancerName key')
    (interleaved :
      Program.Interleaves CalmWorld.answer CalmWorld.answer
        (ExceptT.run (controller.attempt operation)) (ExceptT.run (controller.attempt operation')) calm
        first first' last)
    (interleavedToo :
      Program.Interleaves CalmWorld.answer CalmWorld.answer
        (ExceptT.run (controller.attempt operation)) (ExceptT.run (controller.attempt operation')) calm
        second second' last') :
    ∃ renamed,
      calm.tables.IsRenaming renamed ∧
        operation.SameResult calm.tables renamed first second ∧
        operation'.SameResult calm.tables renamed first' second' ∧
        calm.tables.SameButRenamed renamed last.tables last'.tables := by
  have alike (wider : Nat → Nat → Prop) :=
    controller.alike_attempt_ofOwner about calm.tables (calm.tables.Renames wider)
  have alike' (wider : Nat → Nat → Prop) :=
    controller.alike_attempt_ofOwner about' calm.tables (calm.tables.Renames wider)
  have shares := calm.shares_self consistent unused (controller.naming.loadBalancerName key)
    (controller.naming.loadBalancerName key')
  rcases shares.interleaves interleaved unused differ (fun wider _ => alike wider)
      (fun wider _ => alike' wider) with ⟨renamed, renamed', result, result', shared⟩
  rcases shares.interleaves interleavedToo unused differ (fun wider _ => alike wider)
      (fun wider _ => alike' wider) with ⟨renames, renames', resultToo, resultToo', sharedToo⟩
  refine ⟨_, shared.isRenaming sharedToo, ?_, ?_,
    shared.sameButRenamed sharedToo unused consistent.keyedByArn⟩
  · apply Operation.sameResult_of_common shared.first.isRenaming sharedToo.first.isRenaming _ result
      resultToo
    exact fun _ _ related => .inl related
  · apply Operation.sameResult_of_common shared.second.isRenaming sharedToo.second.isRenaming _
      result' resultToo'
    exact fun _ _ related => .inr related

/-- However the requests of two operations are interleaved, both come to the results, and leave the
tables, that they come to one after the other, but for the serial numbers of what they build. -/
theorem serializable
    {world last : World}
    {context context' : CallContext}
    {result : Except ControllerError operation.Outcome}
    {result' : Except ControllerError operation'.Outcome}
    {first : Except ControllerError operation.Outcome × World}
    {second : Except ControllerError operation'.Outcome × World}
    (consistent : world.cloud.tables.IsConsistent)
    (unused : world.cloud.tables.HasUnusedHandles)
    (quiet : world.IsQuiet)
    (live : context.IsLive world.timeline)
    (live' : context'.IsLive world.timeline)
    (about : operation.key? = some key)
    (about' : operation'.key? = some key')
    (differ : controller.naming.loadBalancerName key ≠ controller.naming.loadBalancerName key')
    (ranFirst : (world.under context).run (controller.attempt operation) = first)
    (ranSecond : (first.2.under context').run (controller.attempt operation') = second)
    (interleaved :
      world.Interleaves context context' (controller.attempt operation)
        (controller.attempt operation') result result' last) :
    ∃ renamed,
      world.cloud.tables.IsRenaming renamed ∧
        operation.SameResult world.cloud.tables renamed result first.1 ∧
        operation'.SameResult world.cloud.tables renamed result' second.1 ∧
        world.cloud.tables.SameButRenamed renamed last.cloud.tables second.2.cloud.tables := by
  rcases World.exists_calm_of_interleaves interleaved quiet live live' world.matches_calm with
    ⟨after, agrees, goesOn⟩
  rcases World.exists_calm_of_run ranFirst ranSecond quiet live live' world.matches_calm with
    ⟨after', agrees', sequence⟩
  have consistentCalm : world.calm.tables.IsConsistent := consistent
  have compared := exists_renaming consistentCalm unused about about' differ goesOn sequence
  rw [agrees.tables, agrees'.tables]
  exact compared

end Controller

/-!
## Two ingresses in a shared cloud

Two cycles begin beside the load balancer of someone else, one for each of two ingresses.
-/

namespace SharedCloud

/-- The key of a second ingress. -/
def otherKey : IngressKey := ⟨IngressKey.defaultNamespace, "blog"⟩

/-- The shared cloud, with annotations for both ingresses. -/
def busyWorld : World :=
  { world with
    store :=
      world.store.setAnnotations otherKey { loadBalancer := { subnets := ["subnet-2"] } } }

/-- A cycle for the first ingress. -/
def cycle : Operation := .reconcile ⟨none, some "shop"⟩

/-- A cycle for the second ingress. -/
def otherCycle : Operation := .reconcile ⟨none, some "blog"⟩

/-- The context of the second cycle, with a token of its own. -/
def otherContext : CallContext := .ofToken ⟨[1]⟩

/-- The first cycle, run to its end. -/
def first : Except ControllerError LoadBalancerStatus × World :=
  (busyWorld.under world.context).run (controller.attempt cycle)

/-- The second cycle after the first. -/
def second : Except ControllerError LoadBalancerStatus × World :=
  (first.2.under otherContext).run (controller.attempt otherCycle)

/-- The second cycle, with all its requests before those of the first. -/
def otherFirst : Except ControllerError LoadBalancerStatus × World :=
  Program.run (World.answerUnder otherContext) (ExceptT.run (controller.attempt otherCycle))
    busyWorld

/-- The first cycle after the second. -/
def otherSecond : Except ControllerError LoadBalancerStatus × World :=
  Program.run (World.answerUnder world.context) (ExceptT.run (controller.attempt cycle))
    otherFirst.2

theorem isLive_world : world.context.IsLive busyWorld.timeline where
  notCancelled := rfl
  beforeDeadline := fun _ given => nomatch given

theorem isLive_otherContext : otherContext.IsLive busyWorld.timeline where
  notCancelled := rfl
  beforeDeadline := fun _ given => nomatch given

theorem names_differ :
    controller.naming.loadBalancerName key ≠ controller.naming.loadBalancerName otherKey := by
  intro same
  have sameBody := (NamingPolicy.loadBalancerName_eq_iff_parts _ _ _).mp same
  exact absurd sameBody.1 (by decide)

theorem interleaves :
    busyWorld.Interleaves world.context otherContext (controller.attempt cycle)
      (controller.attempt otherCycle) otherSecond.1 otherFirst.1 otherSecond.2 :=
  (Program.interleaves_run _ _ _ _ _).symm

end SharedCloud

/-- Whichever of two cycles goes first, both come to the same but for the serial numbers of their load
balancers. -/
theorem Controller.serializable_sharedCloud :
    ∃ renamed,
      SharedCloud.tables.IsRenaming renamed ∧
        SharedCloud.cycle.SameResult SharedCloud.tables renamed SharedCloud.otherSecond.1
          SharedCloud.first.1 ∧
        SharedCloud.otherCycle.SameResult SharedCloud.tables renamed SharedCloud.otherFirst.1
          SharedCloud.second.1 ∧
        SharedCloud.tables.SameButRenamed renamed SharedCloud.otherSecond.2.cloud.tables
          SharedCloud.second.2.cloud.tables :=
  serializable SharedCloud.isConsistent SharedCloud.hasUnusedHandles ⟨rfl, rfl⟩
    SharedCloud.isLive_world SharedCloud.isLive_otherContext rfl rfl SharedCloud.names_differ rfl rfl
    SharedCloud.interleaves

end IngressConvergence
