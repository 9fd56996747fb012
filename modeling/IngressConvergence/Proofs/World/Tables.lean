import IngressConvergence.Proofs.Cloud.Slots
import IngressConvergence.Proofs.Likeness
import IngressConvergence.Proofs.World.Undisturbed

/-!
# What a run does to the tables

The tables of the cloud change only by calls that succeed and are recorded, and then as
`CloudTables.perform` says.  A load balancer that is stored after a run was therefore there before, or
a recorded call created it; this is `World.stored_of_run`.  A world replies as a likeness under which
identities correspond to themselves expects, if the configuration in force and the load balancers that
are found and created are as it expects; this is `World.replies_self`.
-/

namespace IngressConvergence.World

variable {world : World} {likeness : Likeness}

/-! ## One request -/

/-- A call to the cloud fails and leaves the tables, or it is on record and they are what it made of them. -/
theorem CloudCallFate.tables
    {call : CloudCall}
    {reply : Except CloudError call.Answer}
    {later : World}
    (fate : CloudCallFate world call reply later) :
    (∃ error, reply = .error error ∧ later.cloud.tables = world.cloud.tables) ∨
      ∃ answer, reply = .ok answer ∧ world.recordedUntil later = [.cloud call] ∧
        world.cloud.tables.perform call = .ok (answer, later.cloud.tables) := by
  cases fate with
  | ended isCancellation moved dead => exact .inl ⟨_, rfl, congrArg _ moved.cloud⟩
  | failed placed waited live moved =>
      exact .inl ⟨_, rfl, congrArg _ (waited.trans moved).cloud⟩
  | @received moment _ waited live moved =>
      have tables := congrArg CloudService.tables moved.cloud
      have before := congrArg CloudService.tables waited.cloud
      have recorded := recordedUntil_of_received waited moved
      cases waits : moment.cloud.failures.lookup call.operation with
      | some message =>
          refine .inl ⟨_, CloudService.receive_of_failure waits, ?_⟩
          rw [tables, ← before]
          simp only [CloudService.receive, waits]
      | none =>
          rw [CloudService.receive_of_no_failure waits] at tables ⊢
          rw [recorded, ← before]
          cases performed : moment.cloud.tables.perform call with
          | error error =>
              rw [performed] at tables
              exact .inl ⟨error, rfl, tables⟩
          | ok done =>
              rw [performed] at tables
              exact .inr ⟨done.1, rfl, rfl, by rw [tables]⟩

/-- A call to the cloud that fails leaves the tables as they are; one that succeeds answers from the
tables and leaves those that it is said to leave. -/
theorem cloudCall_tables
    (world : World)
    (call : CloudCall) :
    (∃ error, (world.cloudCall call).1 = .error error ∧
        (world.cloudCall call).2.cloud.tables = world.cloud.tables) ∨
      ∃ answer, (world.cloudCall call).1 = .ok answer ∧
        world.recordedUntil (world.cloudCall call).2 = [.cloud call] ∧
        world.cloud.tables.perform call = .ok (answer, (world.cloudCall call).2.cloud.tables) :=
  (world.cloudCall_fate call).tables

/-- Collaborators leave the cloud as it is. -/
theorem CollaboratorCallFate.cloud
    {call : CollaboratorCall}
    {reply : Except Cause call.Answer}
    {later : World}
    (fate : CollaboratorCallFate world call reply later) :
    later.cloud = world.cloud := by
  cases fate with
  | ended isCancellation moved dead => exact moved.cloud
  | failed placed waited live moved => exact moved.cloud.trans waited.cloud
  | answered waited live moved => exact moved.cloud.trans waited.cloud

/-- A request leaves the tables as they are, or it is a call to the cloud that succeeds. -/
theorem tables_answer
    (asked : Request)
    (world : World) :
    (answer asked world).2.cloud.tables = world.cloud.tables ∨
      ∃ call answered, asked = .cloud call ∧
        world.recordedUntil (answer asked world).2 = [.cloud call] ∧
        world.cloud.tables.perform call =
          .ok (answered, (answer asked world).2.cloud.tables) := by
  cases asked with
  | annotationsOf key => exact .inl rfl
  | configuration => exact .inl rfl
  | checkpoint operation => exact .inl rfl
  | report event => exact .inl rfl
  | collaborator call => exact .inl (congrArg _ (world.collaboratorCall_fate call).cloud)
  | cloud call =>
      rcases world.cloudCall_tables call with ⟨error, -, same⟩ | ⟨answered, -, recorded, performed⟩
      · exact .inl same
      · exact .inr ⟨call, answered, rfl, recorded, performed⟩

theorem sameInventory_answer
    (asked : Request)
    (world : World) :
    CloudTables.SameInventory world.cloud.tables (answer asked world).2.cloud.tables := by
  rcases tables_answer asked world with same | ⟨call, answered, -, -, performed⟩
  · rw [same]
    exact .refl _
  · exact (CloudTables.change_of_perform performed).sameInventory

theorem built_le_answer
    (asked : Request)
    (world : World) :
    world.cloud.tables.built ≤ (answer asked world).2.cloud.tables.built := by
  rcases tables_answer asked world with same | ⟨call, answered, -, -, performed⟩
  · exact Nat.le_of_eq (congrArg CloudTables.built same.symm)
  · exact (CloudTables.change_of_perform performed).built_le

/-! ## Runs -/

/-- What every call keeps, a run keeps. -/
theorem tables_invariant
    {Failure Value : Type}
    {Invariant : CloudTables → Prop}
    (preserved :
      ∀ tables after (call : CloudCall) (answered : call.Answer), Invariant tables →
        tables.perform call = .ok (answered, after) → Invariant after)
    (attempt : Attempt Failure Value)
    (initial : Invariant world.cloud.tables) :
    Invariant (world.run attempt).2.cloud.tables := by
  have step (asked : Request) (moment : World) (holds : Invariant moment.cloud.tables) :
      Invariant (answer asked moment).2.cloud.tables := by
    rcases tables_answer asked moment with same | ⟨call, answered, -, -, performed⟩
    · rw [same]
      exact holds
    · exact preserved _ _ call answered holds performed
  exact Program.run_invariant answer step (ExceptT.run attempt) world initial

theorem isConsistent_run
    {Failure Value : Type}
    (attempt : Attempt Failure Value)
    (consistent : world.cloud.tables.IsConsistent) :
    (world.run attempt).2.cloud.tables.IsConsistent :=
  tables_invariant
    (fun _ _ _ _ holds performed => (CloudTables.change_of_perform performed).isConsistent holds)
    attempt consistent

open CloudTables (IsContinued)

/-- A request for the creation of a load balancer that is recorded in a run, and a handle that such a
load balancer gets. -/
structure Creates
    (effects : List Effect)
    (tables : CloudTables)
    (arn : String)
    (request : CreateRequest) : Prop where
  recorded : .cloud (.createLoadBalancer request) ∈ effects
  newHandle :
    ∃ serial, tables.built < serial ∧
      arn = LoadBalancer.arnOf tables.region request.name serial

theorem Creates.mono
    {effects more : List Effect}
    {tables before : CloudTables}
    {arn : String}
    {request : CreateRequest}
    (creates : Creates effects tables arn request)
    (included : effects ⊆ more)
    (sameRegion : tables.region = before.region)
    (earlier : before.built ≤ tables.built) :
    Creates more before arn request where
  recorded := included creates.recorded
  newHandle := by
    rcases creates.newHandle with ⟨serial, ahead, rfl⟩
    exact ⟨serial, Nat.lt_of_le_of_lt earlier ahead, by rw [sameRegion]⟩

/-- A load balancer that is stored after a run was there before, or a recorded call created it. -/
theorem stored_of_run
    {Value : Type}
    (program : Program Value)
    (world : World)
    {arn : String}
    {balancer : LoadBalancer}
    (stored :
      (program.run answer world).2.cloud.tables.loadBalancers.lookup arn = some balancer) :
    (∃ before, world.cloud.tables.loadBalancers.lookup arn = some before ∧
        IsContinued before balancer) ∨
      ∃ request, Creates (world.recordOf program) world.cloud.tables arn request ∧
        balancer.name = request.name ∧ balancer.scheme = request.scheme := by
  induction program generalizing world with
  | done value => exact .inl ⟨balancer, stored, .refl balancer⟩
  | request asked next ih =>
      rw [recordOf_request]
      -- Either the rest of the run created it, or it was there after the first request.
      have later := ih (answer asked world).1 (answer asked world).2 stored
      rcases later with ⟨between, storedBetween, continued⟩ | ⟨request, creates, asCreated⟩
      · rcases tables_answer asked world with same | ⟨call, answered, rfl, recorded, performed⟩
        · rw [same] at storedBetween
          exact .inl ⟨between, storedBetween, continued⟩
        · rcases CloudTables.stored_of_perform performed storedBetween with
            ⟨before, storedBefore, continuedBefore⟩ | ⟨request, rfl, targeted, rfl⟩
          · exact .inl ⟨before, storedBefore, continuedBefore.trans continued⟩
          · cases targeted
            refine .inr ⟨request, ⟨?_, _, Nat.lt_succ_self _, rfl⟩, continued.name,
              continued.scheme⟩
            rw [recorded]
            exact List.mem_append_left _ List.mem_cons_self
      · exact .inr ⟨request, creates.mono (List.subset_append_right _ _)
          (sameInventory_answer asked world).region (built_le_answer asked world), asCreated⟩

/-! ## Replies as they are expected -/

theorem corresponds_causes_self
    {Value : Type}
    (every : ∀ identity, likeness.same identity identity)
    (reply : Except Cause Value) :
    Corresponds likeness.causes Eq reply reply := by
  cases reply with
  | ok value => exact .ok rfl
  | error cause => exact .error (cause.alike_refl fun arn => ⟨"", "", every _⟩)

/-- The answer of a call corresponds to itself if identities do, and if the load balancers that are
found and created are as the likeness expects. -/
theorem answers_self
    {call : CloudCall}
    {answers : call.Answer → call.Answer → Prop}
    {tables after : CloudTables}
    {answered : call.Answer}
    (alike : call.Alike likeness call answers)
    (every : ∀ identity, likeness.same identity identity)
    (found :
      ∀ balancer, tables.findByName likeness.name = some balancer → likeness.isOwn balancer.arn)
    (created :
      ∀ request balancer after,
        likeness.mayCreate request →
        tables.perform (.createLoadBalancer request) = .ok (balancer, after) →
        likeness.isOwn balancer.arn)
    (performed : tables.perform call = .ok (answered, after)) :
    answers answered answered := by
  cases alike with
  | findLoadBalancer =>
      have answers : tables.findByName likeness.name = answered :=
        congrArg Prod.fst (Except.ok.inj performed)
      subst answers
      cases existing : tables.findByName likeness.name with
      | none => exact .none
      | some balancer => exact .some ⟨every _, found balancer existing, rfl⟩
  | createLoadBalancer mayCreate => exact ⟨every _, created _ _ _ mayCreate performed, rfl⟩
  | readAttributes own => rfl
  | readWebAcl own => rfl
  | checkWebAcl webAclId => rfl
  | findSecurityGroups names => rfl
  | findSubnets names => rfl
  | findClusterSubnets scheme => rfl
  | _ => exact trivial

/-- A reply corresponds to itself if identities do, and if the configuration and the load balancers
that it gives out are as the likeness expects. -/
theorem replies_self
    {asked : Request}
    {replies : asked.Reply → asked.Reply → Prop}
    (alike : asked.Alike likeness asked replies)
    (every : ∀ identity, likeness.same identity identity)
    (inForce : likeness.inForce world.store.configuration)
    (found :
      ∀ balancer, world.cloud.tables.findByName likeness.name = some balancer →
        likeness.isOwn balancer.arn)
    (created :
      ∀ request balancer after,
        likeness.mayCreate request →
        world.cloud.tables.perform (.createLoadBalancer request) = .ok (balancer, after) →
        likeness.isOwn balancer.arn) :
    replies (answer asked world).1 (answer asked world).1 := by
  cases alike with
  | annotationsOf key => exact corresponds_causes_self every _
  | configuration => exact ⟨rfl, inForce⟩
  | checkpoint operation =>
      show Corresponds _ _ (world.check operation) (world.check operation)
      cases world.check operation with
      | ok done => exact .ok rfl
      | error error => exact .error (error.alike_refl fun arn => ⟨"", "", every _⟩)
  | report event => exact trivial
  | @collaborator call _ answers alike =>
      show Corresponds _ answers (world.collaboratorCall call).1 (world.collaboratorCall call).1
      cases (world.collaboratorCall call).1 with
      | error cause => exact .error (cause.alike_refl fun arn => ⟨"", "", every _⟩)
      | ok answered =>
          apply Corresponds.ok
          cases alike with
          | convergeTargetGroups ingress => rfl
          | collectTargetGroups inUse => rfl
          | deleteTargetGroups key => rfl
          | _ => exact trivial
  | @cloud call _ answers alike =>
      show Corresponds _ answers (world.cloudCall call).1 (world.cloudCall call).1
      rcases world.cloudCall_tables call with ⟨error, replied, -⟩ | ⟨answered, replied, -, performed⟩
      · rw [replied]
        exact .error (error.alike_refl fun arn => ⟨"", "", every _⟩)
      · rw [replied]
        exact .ok (answers_self alike every found created performed)

end IngressConvergence.World
