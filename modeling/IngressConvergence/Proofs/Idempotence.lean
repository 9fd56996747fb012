import IngressConvergence.Proofs.SelfHealing

/-!
# Idempotence

A cycle that succeeded leaves nothing to do: another one for the same ingress, on the tables that it
left, succeeds with the same status, asks the cloud for no change and leaves the tables as they are.
This is `Controller.reconcile_again`.  The second cycle may run at another time and under another
context, and its collaborators may answer otherwise.
-/

namespace IngressConvergence

/-! ## Calls that may change the cloud -/

/-- The calls of a record that may change the cloud are those of its effects that may. -/
theorem Effect.filter_isMutating_filterMap_cloudCall?
    (effects : List Effect) :
    (effects.filterMap cloudCall?).filter (·.isMutating) =
      (effects.filter isMutating).filterMap cloudCall? := by
  induction effects with
  | nil => rfl
  | cons effect rest ih =>
      cases effect with
      | collaborator call => exact ih
      | cloud call =>
          cases mutating : call.isMutating with
          | true => simp [cloudCall?, isMutating, mutating, ih]
          | false => simp [cloudCall?, isMutating, mutating, ih]

/-- The calls that may change the cloud after a run are those before it and those of its record. -/
theorem World.mutatingCalls_run
    {Failure Value : Type}
    (world : World)
    (attempt : Attempt Failure Value) :
    (world.run attempt).2.cloud.mutatingCalls =
      world.cloud.mutatingCalls ++
        ((world.record attempt).filter Effect.isMutating).filterMap Effect.cloudCall? := by
  rw [CloudService.mutatingCalls, World.cloud_calls_run, List.filter_append,
    Effect.filter_isMutating_filterMap_cloudCall?]
  rfl

/-- A run that goes as one that changes nothing asks the cloud for no change. -/
theorem World.RunsAs.mutatingCalls_of_untouched
    {Failure Value : Type}
    {world : World}
    {calm after : CalmWorld}
    {attempt : Attempt Failure Value}
    {value : Value}
    (runsAs : world.RunsAs calm (ExceptT.run attempt))
    (yields : calm.Yields attempt value after)
    (untouched : calm.Untouched after) :
    (world.run attempt).2.cloud.mutatingCalls = world.cloud.mutatingCalls := by
  have mutations := untouched.mutations
  rw [runsAs.effects_of_yields yields, List.filter_append, List.append_right_eq_self] at mutations
  rw [World.mutatingCalls_run, mutations]
  exact List.append_nil _

namespace Controller

variable {first second : World} {controller : Controller} {ingress : Ingress}
  {status : LoadBalancerStatus}

/-- In a calm world with the tables that a cycle left, the cycle succeeds again and changes
nothing. -/
theorem yields_reconcile_again
    {calm after : CalmWorld}
    (again : CalmWorld)
    (consistent : calm.tables.IsConsistent)
    (yields : calm.Yields (controller.reconcile ingress) status after)
    (sameTables : again.tables = after.tables)
    (sameStore : again.store = calm.store) :
    ∃ last, again.Yields (controller.reconcile ingress) status last ∧ again.Untouched last := by
  rcases yields_reconcile_iff.mp yields with ⟨key, named, converges⟩
  rcases isConverged_of_yields consistent converges with
    ⟨annotations, subnets, stored, admits, isKnown, converged, rfl⟩
  have keeps := converges.keeps
  rw [← sameTables] at converged
  have againConsistent : again.tables.IsConsistent := by
    rw [sameTables]
    exact keeps.consistent consistent
  have sameInventory : CloudTables.SameInventory calm.tables again.tables := by
    rw [sameTables]
    exact keeps.inventory
  have stillKnown := isKnown.transport sameInventory
  rcases
      yields_converge_of_isConverged againConsistent (admits.transport sameStore sameInventory)
        stillKnown converged ingress with
    ⟨last, convergesAgain, untouched⟩
  exact ⟨last, yields_reconcile_iff.mpr ⟨key, named, convergesAgain⟩, untouched⟩

/-- A cycle on the tables that a successful cycle for the same ingress left succeeds with the same
status, asks the cloud for no change and leaves every table as it is. -/
theorem reconcile_again
    (arises : first.cloud.tables.Arises)
    (uniqueNames : first.cloud.tables.HasUniqueNames)
    (succeeds : (first.run (controller.reconcile ingress)).1 = .ok status)
    (sameTables :
      second.cloud.tables = (first.run (controller.reconcile ingress)).2.cloud.tables)
    (sameStore : second.store = first.store)
    (undisturbed : second.Undisturbed (controller.reconcile ingress)) :
    (second.run (controller.reconcile ingress)).1 = .ok status ∧
      (second.run (controller.reconcile ingress)).2.cloud.mutatingCalls =
        second.cloud.mutatingCalls ∧
      (second.run (controller.reconcile ingress)).2.cloud.tables = second.cloud.tables := by
  have consistent : first.calm.tables.IsConsistent := ⟨arises.isKeyedByArn, uniqueNames⟩
  have firstRunsAs :=
    World.runsAs_of_eq_ok (controller.failsFast_reconcile ingress) first.matches_calm succeeds
  have yields := firstRunsAs.yields_of_eq_ok succeeds
  have left := sameTables.trans (firstRunsAs.matches_of_yields yields).tables
  rcases yields_reconcile_again second.calm consistent yields left sameStore with
    ⟨last, yieldsAgain, untouched⟩
  have runsAs := undisturbed.runsAs second.matches_calm
  refine ⟨runsAs.eq_ok_of_yields yieldsAgain, ?_, ?_⟩
  · exact runsAs.mutatingCalls_of_untouched yieldsAgain untouched
  · exact (runsAs.matches_of_yields yieldsAgain).tables.trans untouched.tables

/-- The cycle that repairs a load balancer leaves nothing to do. -/
theorem reconcile_again_staleCloud :
    ∃ status,
      (StaleCloud.world.run StaleCloud.cycle).1 = .ok status ∧
        ((StaleCloud.world.run StaleCloud.cycle).2.run StaleCloud.cycle).1 = .ok status ∧
        ((StaleCloud.world.run StaleCloud.cycle).2.run StaleCloud.cycle).2.cloud.mutatingCalls =
          (StaleCloud.world.run StaleCloud.cycle).2.cloud.mutatingCalls ∧
        ((StaleCloud.world.run StaleCloud.cycle).2.run StaleCloud.cycle).2.cloud.tables =
          (StaleCloud.world.run StaleCloud.cycle).2.cloud.tables := by
  rcases
      eq_ok_of_supports StaleCloud.isConsistent StaleCloud.named StaleCloud.supports
        (StaleCloud.isFaultless.undisturbed StaleCloud.cycle) with
    ⟨status, succeeds⟩
  refine ⟨status, succeeds, ?_⟩
  exact reconcile_again StaleCloud.arises StaleCloud.isConsistent.uniqueNames succeeds rfl
    (World.store_run _ _) ((StaleCloud.isFaultless.run StaleCloud.cycle).undisturbed _)

end Controller

end IngressConvergence
