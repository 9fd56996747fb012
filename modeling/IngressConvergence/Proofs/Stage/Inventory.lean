import IngressConvergence.Convergence.Cycle
import IngressConvergence.Proofs.FailFast.Cycle
import IngressConvergence.Proofs.World.Success

/-!
# Reading the inventory

Subnets and security groups are resolved by calls that only read the inventory.  Such an attempt
changes nothing, and it gives the same value wherever the inventory is the same.  A desired state that
could be built has a subnet.
-/

namespace IngressConvergence

open CloudTables (SameInventory)

/-! ## Attempts that read the inventory -/

namespace Attempt

variable {Failure First Second Value : Type}

/-- An attempt that changes nothing and gives the same value wherever the inventory is the same. -/
structure ReadsInventory
    (attempt : Attempt Failure Value) : Prop where
  untouched :
    ∀ {calm after : CalmWorld} {value : Value},
      calm.Yields attempt value after → calm.Untouched after
  transport :
    ∀ {calm after : CalmWorld} {value : Value} (other : CalmWorld),
      SameInventory calm.tables other.tables → calm.Yields attempt value after →
      ∃ otherAfter, other.Yields attempt value otherAfter

namespace ReadsInventory

theorem ofExcept
    (result : Except Failure Value) :
    ReadsInventory (ExceptT.mk (.done result)) where
  untouched := by
    intro calm after value yields
    rcases CalmWorld.yields_ofExcept_iff.mp yields with ⟨-, rfl⟩
    exact .refl _
  transport := by
    intro calm after value other same yields
    rcases CalmWorld.yields_ofExcept_iff.mp yields with ⟨succeeds, -⟩
    exact ⟨other, CalmWorld.yields_ofExcept_iff.mpr ⟨succeeds, rfl⟩⟩

theorem pure
    (value : Value) :
    ReadsInventory (Pure.pure value : Attempt Failure Value) :=
  ofExcept (.ok value)

theorem ite
    {condition : Prop}
    [Decidable condition]
    {first second : Attempt Failure Value}
    (whenTrue : ReadsInventory first)
    (whenFalse : ReadsInventory second) :
    ReadsInventory (if condition then first else second) := by
  by_cases holds : condition
  · rwa [if_pos holds]
  · rwa [if_neg holds]

theorem bind
    {attempt : Attempt Failure First}
    {next : First → Attempt Failure Second}
    (first : ReadsInventory attempt)
    (rest : ∀ value, ReadsInventory (next value)) :
    ReadsInventory (attempt >>= next) where
  untouched := by
    intro calm after value yields
    rcases CalmWorld.yields_bind_iff.mp yields with ⟨found, middle, begins, ends⟩
    exact (first.untouched begins).trans ((rest found).untouched ends)
  transport := by
    intro calm after value other same yields
    rcases CalmWorld.yields_bind_iff.mp yields with ⟨found, middle, begins, ends⟩
    rcases first.transport other same begins with ⟨otherMiddle, otherBegins⟩
    have sameBetween : SameInventory middle.tables otherMiddle.tables := by
      rw [(first.untouched begins).tables, (first.untouched otherBegins).tables]
      exact same
    rcases (rest found).transport otherMiddle sameBetween ends with ⟨otherAfter, otherEnds⟩
    exact ⟨otherAfter, CalmWorld.yields_bind_iff.mpr ⟨found, otherMiddle, otherBegins, otherEnds⟩⟩

/-- A call whose answer depends on the inventory alone reads the inventory. -/
theorem cloud
    {call : CloudCall}
    {wrap : CloudError → Failure}
    (notMutating : call.isMutating = false)
    (reads :
      ∀ tables other answer after, SameInventory tables other →
        tables.perform call = .ok (answer, after) →
        after = tables ∧ other.perform call = .ok (answer, other)) :
    ReadsInventory (Attempt.cloud call wrap) where
  untouched := by
    intro calm after value yields
    rcases CalmWorld.yields_cloud_iff.mp yields with ⟨tables, performed, rfl⟩
    rcases reads _ _ _ _ (.refl _) performed with ⟨rfl, -⟩
    exact .recording calm notMutating
  transport := by
    intro calm after value other same yields
    rcases CalmWorld.yields_cloud_iff.mp yields with ⟨tables, performed, -⟩
    rcases reads _ _ _ _ same performed with ⟨-, otherPerformed⟩
    exact ⟨_, CalmWorld.yields_cloud_iff.mpr ⟨_, otherPerformed, rfl⟩⟩

end ReadsInventory

end Attempt

/-! ## Resolving references -/

namespace DesiredState

theorem readsInventory_findSubnets
    (names : List String)
    (wrap : CloudError → ControllerError) :
    (Attempt.cloud (.findSubnets names) wrap).ReadsInventory := by
  refine .cloud rfl ?_
  intro tables other answer after same performed
  cases performed
  refine ⟨rfl, ?_⟩
  show Except.ok (other.subnetsNamed names, other) = _
  rw [CloudTables.subnetsNamed, same.namedSubnets]
  rfl

theorem readsInventory_findClusterSubnets
    (scheme : Scheme)
    (wrap : CloudError → ControllerError) :
    (Attempt.cloud (.findClusterSubnets scheme) wrap).ReadsInventory := by
  refine .cloud rfl ?_
  intro tables other answer after same performed
  rcases CloudTables.findClusterSubnets_eq_ok_iff.mp performed with ⟨found, unchanged⟩
  refine ⟨unchanged, CloudTables.findClusterSubnets_eq_ok_iff.mpr ⟨?_, rfl⟩⟩
  rw [CloudTables.clusterSubnetsFor, same.clusterSubnets]
  exact found

theorem readsInventory_findSecurityGroups
    (names : List String)
    (wrap : CloudError → ControllerError) :
    (Attempt.cloud (.findSecurityGroups names) wrap).ReadsInventory := by
  refine .cloud rfl ?_
  intro tables other answer after same performed
  cases performed
  refine ⟨rfl, ?_⟩
  show Except.ok (other.securityGroupsNamed names, other) = _
  rw [CloudTables.securityGroupsNamed, same.securityGroups]
  rfl

theorem readsInventory_resolveSecurityGroups
    (items : List String) :
    (resolveSecurityGroups items).ReadsInventory := by
  rw [resolveSecurityGroups_eq]
  refine .ite (.ofExcept _) ?_
  exact .bind (readsInventory_findSecurityGroups _ _) fun groups => .ofExcept _

theorem readsInventory_resolveAnnotatedSubnets
    (items : List String) :
    (resolveAnnotatedSubnets items).ReadsInventory := by
  rw [resolveAnnotatedSubnets_eq]
  refine .ite (.ofExcept _) ?_
  exact .bind (readsInventory_findSubnets _ _) fun ids => .ofExcept _

theorem readsInventory_resolveSubnets
    (items : List String)
    (scheme : Scheme) :
    (resolveSubnets items scheme).ReadsInventory := by
  rw [resolveSubnets]
  refine .ite ?_ ?_
  · exact .bind (readsInventory_findClusterSubnets _ _) fun subnets => .pure _
  · exact .bind (readsInventory_resolveAnnotatedSubnets _) fun subnets => .pure _

/-! ## A desired state has a subnet -/

variable {calm after : CalmWorld}

/-- A list with items does not settle to an empty one. -/
theorem ne_nil_of_settle_eq_ok
    {kind : ReferenceKind}
    {items resolved : List String}
    {found : List ReferenceMatch}
    (settles : Reference.settle kind items found = .ok resolved)
    (someItem : items ≠ []) :
    resolved ≠ [] := by
  unfold Reference.settle at settles
  dsimp only at settles
  split at settles
  next holds =>
    cases settles
    simp only [Bool.and_eq_true, decide_eq_true_eq] at holds
    intro noneResolved
    rw [noneResolved] at holds
    exact someItem (List.length_eq_zero_iff.mp holds.2.symm)
  · cases settles

theorem ne_nil_of_yields_resolveAnnotatedSubnets
    {items subnets : List String}
    (someItem : items ≠ [])
    (yields : calm.Yields (resolveAnnotatedSubnets items) subnets after) :
    subnets ≠ [] := by
  rw [resolveAnnotatedSubnets_eq] at yields
  by_cases noNames : (Reference.names .subnet items).isEmpty
  · rw [if_pos noNames] at yields
    rcases CalmWorld.yields_ofExcept_iff.mp yields with ⟨succeeds, -⟩
    cases succeeds
    exact someItem
  · rw [if_neg noNames] at yields
    rcases CalmWorld.yields_bind_iff.mp yields with ⟨ids, middle, -, settles⟩
    exact ne_nil_of_settle_eq_ok (CalmWorld.yields_ofExcept_iff.mp settles).1 someItem

/-- Subnets that are resolved are at least one. -/
theorem ne_nil_of_yields_resolveSubnets
    {items subnets : List String}
    {scheme : Scheme}
    (yields : calm.Yields (resolveSubnets items scheme) subnets after) :
    subnets ≠ [] := by
  have sorted {ids : List String} (notEmpty : ids ≠ []) : ids.mergeSort ≠ [] := by
    intro noneLeft
    have permuted := List.mergeSort_perm ids fun left right => decide (left ≤ right)
    rw [noneLeft] at permuted
    exact notEmpty (List.nil_perm.mp permuted)
  rw [resolveSubnets] at yields
  by_cases noItems : items.isEmpty
  · rw [if_pos noItems] at yields
    rcases CalmWorld.yields_bind_iff.mp yields with ⟨ids, middle, found, sorts⟩
    rcases CalmWorld.yields_cloud_iff.mp found with ⟨tables, performed, -⟩
    rcases CalmWorld.yields_pure_iff.mp sorts with ⟨rfl, -⟩
    rcases CloudTables.findClusterSubnets_eq_ok_iff.mp performed with ⟨found, -⟩
    exact sorted (CloudTables.ne_nil_of_clusterSubnetsFor found)
  · rw [if_neg noItems] at yields
    rcases CalmWorld.yields_bind_iff.mp yields with ⟨ids, middle, found, sorts⟩
    rcases CalmWorld.yields_pure_iff.mp sorts with ⟨rfl, -⟩
    exact sorted (ne_nil_of_yields_resolveAnnotatedSubnets (by simpa using noItems) found)

/-! ## Building a desired state -/

theorem mem_eraseRepsBy_loop
    (held : String)
    (rest kept : List String)
    (item : String) :
    item ∈ List.eraseRepsBy.loop (· == ·) held rest kept ↔
      item = held ∨ item ∈ rest ∨ item ∈ kept := by
  induction rest generalizing held kept with
  | nil => simp [List.eraseRepsBy.loop, or_comm]
  | cons next rest ih =>
      rw [List.eraseRepsBy.loop]
      cases same : held == next with
      | true =>
          rw [ih, List.mem_cons, beq_iff_eq.mp same]
          grind
      | false =>
          rw [ih, List.mem_cons, List.mem_cons]
          grind

theorem mem_eraseReps
    (items : List String)
    (item : String) :
    item ∈ items.eraseReps ↔ item ∈ items := by
  cases items with
  | nil => rfl
  | cons held rest =>
      have loop := mem_eraseRepsBy_loop held rest [] item
      rw [List.mem_cons]
      apply loop.trans
      simp

/-- A desired state is built from the subnets that are resolved. -/
theorem yields_build_iff
    {policy : NamingPolicy}
    {key : IngressKey}
    {annotations : IngressAnnotations}
    {desired : DesiredState} :
    calm.Yields (build policy key annotations) desired after ↔
      ∃ subnets,
        calm.Yields
            (resolveSubnets annotations.loadBalancer.subnets annotations.loadBalancer.scheme)
            subnets after ∧
          desired = ofSubnets policy key annotations subnets := by
  rw [build]
  rw [CalmWorld.yields_bind_iff]
  constructor
  · rintro ⟨subnets, middle, resolves, builds⟩
    rcases CalmWorld.yields_pure_iff.mp builds with ⟨rfl, rfl⟩
    exact ⟨subnets, CalmWorld.yields_mapFailure_iff.mp resolves, rfl⟩
  · rintro ⟨subnets, resolves, rfl⟩
    exact ⟨subnets, after, CalmWorld.yields_mapFailure_iff.mpr resolves,
      CalmWorld.yields_pure_iff.mpr ⟨rfl, rfl⟩⟩

theorem subnets_ne_nil_of_resolves
    (policy : NamingPolicy)
    (key : IngressKey)
    {annotations : IngressAnnotations}
    {subnets : List String}
    {scheme : Scheme}
    (resolves : calm.Yields (resolveSubnets annotations.loadBalancer.subnets scheme) subnets after) :
    (ofSubnets policy key annotations subnets).subnets ≠ [] := by
  intro noneLeft
  refine ne_nil_of_yields_resolveSubnets resolves (List.eq_nil_iff_forall_not_mem.mpr ?_)
  intro subnet member
  have kept : subnet ∈ subnets.eraseReps := (mem_eraseReps subnets subnet).mpr member
  have noneKept : subnets.eraseReps = [] := noneLeft
  rw [noneKept] at kept
  cases kept

end DesiredState

end IngressConvergence
