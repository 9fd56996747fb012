import IngressConvergence.Proofs.FailFast.Cycle
import IngressConvergence.Proofs.Requests
import IngressConvergence.Proofs.World.Tables

/-!
# Attempts that leave a world alone

An attempt leaves a world alone if it asks for nothing that changes a table and calls no collaborator:
whatever faults it meets, nothing is changed then, which is `Attempt.AsksOnly.unchanged`.  Building a
desired state is such an attempt.  This module also says how the parts of an attempt run one after the
other.
-/

namespace IngressConvergence

/-- A call that is not mutating leaves the tables as they are. -/
theorem CloudTables.eq_of_perform_of_not_isMutating
    {tables after : CloudTables}
    {call : CloudCall}
    {answer : call.Answer}
    (notMutating : call.isMutating = false)
    (performed : tables.perform call = .ok (answer, after)) :
    after = tables := by
  cases call with
  | findLoadBalancer name =>
      cases performed
      rfl
  | readAttributes arn => exact (readAttributes_eq_ok_iff.mp performed).2.2
  | readWebAcl arn =>
      cases performed
      rfl
  | checkWebAcl webAclId =>
      cases performed
      rfl
  | findSecurityGroups names =>
      cases performed
      rfl
  | findSubnets names =>
      cases performed
      rfl
  | findClusterSubnets scheme => exact (findClusterSubnets_eq_ok_iff.mp performed).2
  | _ => cases notMutating

namespace World

/-- No table changed, the cloud was asked for no change, and no collaborator was called. -/
structure Unchanged
    (world later : World) : Prop where
  tables : later.cloud.tables = world.cloud.tables
  mutatingCalls : later.cloud.mutatingCalls = world.cloud.mutatingCalls
  journal : later.journal = world.journal

section Order

variable {world middle later : World}

theorem Unchanged.refl (world : World) : Unchanged world world := ⟨rfl, rfl, rfl⟩

theorem Unchanged.trans
    (first : Unchanged world middle)
    (second : Unchanged middle later) :
    Unchanged world later where
  tables := second.tables.trans first.tables
  mutatingCalls := second.mutatingCalls.trans first.mutatingCalls
  journal := second.journal.trans first.journal

theorem Later.unchanged
    (moved : Later world later) :
    Unchanged world later where
  tables := congrArg _ moved.cloud
  mutatingCalls := congrArg _ moved.cloud
  journal := moved.journal

end Order

theorem CloudCallFate.unchanged
    {world later : World}
    {call : CloudCall}
    {reply : Except CloudError call.Answer}
    (fate : CloudCallFate world call reply later)
    (notMutating : call.isMutating = false) :
    Unchanged world later where
  tables := by
    rcases fate.tables with ⟨error, -, same⟩ | ⟨answered, -, -, performed⟩
    · exact same
    · exact CloudTables.eq_of_perform_of_not_isMutating notMutating performed
  mutatingCalls := by
    cases fate with
    | ended isCancellation moved dead => exact moved.unchanged.mutatingCalls
    | failed placed waited live moved => exact (waited.trans moved).unchanged.mutatingCalls
    | received waited live moved =>
        rw [CloudService.mutatingCalls, moved.cloud, calls_receive, waited.cloud]
        simp [CloudService.mutatingCalls, notMutating]
  journal := by
    cases fate with
    | ended isCancellation moved dead => exact moved.journal
    | failed placed waited live moved => exact (waited.trans moved).journal
    | received waited live moved => exact moved.journal.trans waited.journal

/-! ## Parts that run one after the other -/

variable {Failure Other First Second Value : Type} {world after : World}

theorem run_bind_of_ok
    {attempt : Attempt Failure First}
    {next : First → Attempt Failure Second}
    {value : First}
    (succeeds : world.run attempt = (.ok value, after)) :
    world.run (attempt >>= next) = after.run (next value) := by
  apply (Attempt.run_bind answer attempt next world).trans
  rw [show Program.run answer (ExceptT.run attempt) world = (.ok value, after) from succeeds]
  rfl

theorem run_bind_of_error
    {attempt : Attempt Failure First}
    {next : First → Attempt Failure Second}
    {failure : Failure}
    (fails : world.run attempt = (.error failure, after)) :
    world.run (attempt >>= next) = (.error failure, after) := by
  apply (Attempt.run_bind answer attempt next world).trans
  rw [show Program.run answer (ExceptT.run attempt) world = (.error failure, after) from fails]

theorem run_mapFailure
    (world : World)
    (attempt : Attempt Failure Value)
    (wrap : Failure → Other) :
    world.run (attempt.mapFailure wrap) =
      ((world.run attempt).1.mapError wrap, (world.run attempt).2) :=
  Program.run_bind answer (ExceptT.run attempt) _ world

/-- A report at the end changes neither the result nor anything but the log. -/
theorem run_reporting
    (world : World)
    (attempt : Attempt Failure Value)
    (event : Except Failure Value → Option Event) :
    (world.run (attempt.reporting event)).1 = (world.run attempt).1 ∧
      Unchanged (world.run attempt).2 (world.run (attempt.reporting event)).2 := by
  have whole : world.run (attempt.reporting event) = _ :=
    Program.run_bind answer (ExceptT.run attempt) _ world
  rw [whole]
  show _ = (Program.run answer (ExceptT.run attempt) world).1 ∧
    Unchanged (Program.run answer (ExceptT.run attempt) world).2 _
  cases event (Program.run answer (ExceptT.run attempt) world).1 with
  | some event => exact ⟨rfl, rfl, rfl, rfl⟩
  | none => exact ⟨rfl, .refl _⟩

end World

/-! ## Attempts that leave a world alone -/

/-- A request that changes no table: it is no call to a collaborator and no call to the cloud that may
change something. -/
def Request.LeavesAlone : Request → Prop
  | .cloud call => call.isMutating = false
  | .collaborator _ => False
  | _ => True

theorem World.unchanged_answer
    {asked : Request}
    (leaves : asked.LeavesAlone)
    (world : World) :
    World.Unchanged world (World.answer asked world).2 := by
  cases asked with
  | cloud call => exact (world.cloudCall_fate call).unchanged leaves
  | collaborator call => cases leaves
  | _ => exact ⟨rfl, rfl, rfl⟩

/-- An attempt that asks only for what leaves a world alone changes nothing, whatever faults it meets. -/
theorem Attempt.AsksOnly.unchanged
    {Failure Value : Type}
    {attempt : Attempt Failure Value}
    (asks : attempt.AsksOnly Request.LeavesAlone)
    (world : World) :
    World.Unchanged world (world.run attempt).2 :=
  asks.run_invariant
    (fun _ moment leaves unchanged => unchanged.trans (World.unchanged_answer leaves moment)) world
    (.refl world)

/-! ## Building a desired state -/

namespace DesiredState

theorem asksOnly_resolveAnnotatedSubnets
    (items : List String) :
    (resolveAnnotatedSubnets items).AsksOnly Request.LeavesAlone := by
  rw [resolveAnnotatedSubnets_eq]
  exact .ite (.ofExcept _) (.bind (.single rfl) fun ids => .ofExcept _)

/-- To build a desired state leaves a world alone. -/
theorem asksOnly_build
    (policy : NamingPolicy)
    (key : IngressKey)
    (annotations : IngressAnnotations) :
    (build policy key annotations).AsksOnly Request.LeavesAlone := by
  rw [build, resolveSubnets]
  refine .bind (.mapFailure (.ite ?_ ?_) _) fun subnets => .ofExcept (.ok _)
  · exact .bind (.single rfl) fun subnets => .ofExcept (.ok _)
  · exact .bind (asksOnly_resolveAnnotatedSubnets _) fun subnets => .ofExcept (.ok _)

end DesiredState

end IngressConvergence
