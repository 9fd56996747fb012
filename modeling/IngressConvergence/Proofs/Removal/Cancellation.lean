import IngressConvergence.Proofs.ContextLaw
import IngressConvergence.Proofs.Removal
import IngressConvergence.Proofs.SelfHealing

/-!
# Removals stop one call late

A cycle asks before each of its steps whether the step may still start.  A removal does not ask: once a
call is accepted it makes the next one, whatever became of its context in the meantime, and leaves it to
whoever is called to refuse.  If the context ends during a call that is accepted, one more call is made
therefore, and collaborators that do not look at the context would all be called.  Nothing is recorded
after that moment and the load balancer stays.  The main statement is `Controller.delete_stops_late`.
-/

namespace IngressConvergence

/-! ## What is called next -/

/-- The exchanges that lead out of the controller. -/
def externals
    {State : Type}
    (exchanges : List (Exchange State)) : List (Exchange State) :=
  exchanges.filter (·.asked.isExternal)

/-- What is asked first of all that leads out of the controller. -/
def firstCall?
    {State : Type}
    (exchanges : List (Exchange State)) : Option Request :=
  (externals exchanges).head?.map (·.asked)

theorem Request.refusal?_eq_none_of_not_isExternal
    {asked : Request}
    (reply : asked.Reply)
    (internal : asked.isExternal = false) :
    asked.refusal? reply = none := by
  cases asked with
  | configuration => rfl
  | report event => rfl
  | _ => cases internal

namespace Program

variable {First Failure Value State : Type}

/-- As long as nothing is refused a program calls what follows, and in the end it succeeds. -/
inductive Proceeds
    (follows : Request → Option Request) :
    Program (Except Failure Value) → Prop where
  | done
      (value : Value) :
      Proceeds follows (.done (.ok value))
  | request
      {asked : Request}
      {next : asked.Reply → Program (Except Failure Value)}
      (calls :
        ∀ reply, asked.refusal? reply = none →
          ∀ (State : Type) (answer : (asked : Request) → State → asked.Reply × State) (state : State),
            firstCall? ((next reply).transcript answer state) = follows asked)
      (goesOn : ∀ reply, asked.refusal? reply = none → Proceeds follows (next reply)) :
      Proceeds follows (.request asked next)

namespace Proceeds

variable (answer : (asked : Request) → State → asked.Reply × State)
  {follows : Request → Option Request} {program : Program (Except Failure Value)}

/-- A call to a collaborator is accepted if it is answered. -/
theorem collaborator
    {call : CollaboratorCall}
    {next : Except Cause call.Answer → Program (Except Failure Value)}
    (calls :
      ∀ (given : call.Answer) (State : Type)
        (answer : (asked : Request) → State → asked.Reply × State) (state : State),
        firstCall? ((next (.ok given)).transcript answer state) = follows (.collaborator call))
    (goesOn : ∀ given, Proceeds follows (next (.ok given))) :
    Proceeds follows (.request (.collaborator call) next) := by
  refine .request ?_ ?_
  · rintro (error | given) accepted
    · cases accepted
    · exact calls given
  · rintro (error | given) accepted
    · cases accepted
    · exact goesOn given

/-- A call to the cloud is accepted if it is answered. -/
theorem cloud
    {call : CloudCall}
    {next : Except CloudError call.Answer → Program (Except Failure Value)}
    (calls :
      ∀ (given : call.Answer) (State : Type)
        (answer : (asked : Request) → State → asked.Reply × State) (state : State),
        firstCall? ((next (.ok given)).transcript answer state) = follows (.cloud call))
    (goesOn : ∀ given, Proceeds follows (next (.ok given))) :
    Proceeds follows (.request (.cloud call) next) := by
  refine .request ?_ ?_
  · rintro (error | given) accepted
    · cases accepted
    · exact calls given
  · rintro (error | given) accepted
    · cases accepted
    · exact goesOn given

/-- An accepted request is followed by the call that it calls for. -/
theorem firstCall?_of_split
    (proceeds : Proceeds follows program)
    {state : State}
    {earlier later : List (Exchange State)}
    {exchange : Exchange State}
    (split : program.transcript answer state = earlier ++ exchange :: later)
    (accepted : ∀ other ∈ earlier, other.refusal? = none)
    (isAccepted : exchange.refusal? = none) :
    firstCall? later = follows exchange.asked := by
  induction proceeds generalizing state earlier with
  | done value => simp at split
  | @request asked next calls goesOn ih =>
      rw [transcript_request] at split
      cases earlier with
      | nil =>
          rcases List.cons.inj split with ⟨rfl, rfl⟩
          exact calls _ isAccepted _ _ _
      | cons first earlier =>
          rcases List.cons.inj split with ⟨rfl, tail⟩
          exact ih _ (accepted _ List.mem_cons_self) tail fun other member =>
            accepted other (List.mem_cons_of_mem _ member)

/-- A program of which nothing was refused has succeeded. -/
theorem eq_ok_of_accepted
    (proceeds : Proceeds follows program)
    {state : State}
    (accepted : ∀ exchange ∈ program.transcript answer state, exchange.refusal? = none) :
    ∃ value, (program.run answer state).1 = .ok value := by
  induction proceeds generalizing state with
  | done value => exact ⟨value, rfl⟩
  | @request asked next calls goesOn ih =>
      rw [transcript_request] at accepted
      exact ih _ (accepted _ List.mem_cons_self) fun exchange member =>
        accepted exchange (List.mem_cons_of_mem _ member)

end Proceeds

end Program

/-! ## The calls of a removal -/

namespace Controller

variable {State : Type} {controller : Controller} {key : IngressKey} {balancer : LoadBalancer}

/-- The call that a removal makes after a request that was accepted. -/
def nextCall
    (key : IngressKey)
    (balancer : LoadBalancer) :
    Request → Option Request
  | .cloud (.findLoadBalancer _) =>
      some (.collaborator (.deleteSecurityGroups (.forDeletion key balancer.name balancer.arn)))
  | .collaborator (.deleteSecurityGroups _) => some (.collaborator (.deleteListeners balancer.arn))
  | .collaborator (.deleteListeners _) => some (.collaborator (.deleteTargetGroups key))
  | .collaborator (.deleteTargetGroups _) => some (.cloud (.deleteLoadBalancer balancer.arn))
  | .report (.deleting _ _) => some (.cloud (.deleteLoadBalancer balancer.arn))
  | _ => none

theorem proceeds_teardown
    (key : IngressKey)
    (balancer : LoadBalancer)
    (name : String) :
    Program.Proceeds (nextCall key balancer)
      (ExceptT.run ((teardown key balancer).reporting (removalReport name key))) := by
  refine .collaborator (fun _ _ _ _ => rfl) fun _ => ?_
  refine .collaborator (fun _ _ _ _ => rfl) fun _ => ?_
  refine .collaborator (fun _ _ _ _ => rfl) fun _ => ?_
  refine .request (fun _ _ _ _ _ => rfl) fun _ _ => ?_
  refine .cloud (fun _ _ _ _ => rfl) fun _ => ?_
  exact .request (fun _ _ _ _ _ => rfl) fun _ _ => .done ()

section

variable (answer : (asked : Request) → State → asked.Reply × State) {state : State}
  {earlier later : List (Exchange State)} {exchange : Exchange State}

/-- A removal that finds a load balancer goes on with it. -/
theorem transcript_delete_of_found
    (found :
      (answer (.cloud (.findLoadBalancer (controller.naming.loadBalancerName key))) state).1 =
        Except.ok (some balancer)) :
    ∃ asks : Exchange State,
      asks.asked = .cloud (.findLoadBalancer (controller.naming.loadBalancerName key)) ∧
        asks.after =
          (answer (.cloud (.findLoadBalancer (controller.naming.loadBalancerName key))) state).2 ∧
        (ExceptT.run (controller.delete key)).transcript answer state =
          asks :: (ExceptT.run ((teardown key balancer).reporting
            (removalReport (controller.naming.loadBalancerName key) key))).transcript answer
              asks.after ∧
        (ExceptT.run (controller.delete key)).run answer state =
          (ExceptT.run ((teardown key balancer).reporting
            (removalReport (controller.naming.loadBalancerName key) key))).run answer asks.after := by
  let lookup : Request := .cloud (.findLoadBalancer (controller.naming.loadBalancerName key))
  rcases controller.exists_delete_eq_request key with ⟨next, opened, -, -, goesOn⟩
  rw [opened, Program.transcript_request, Program.run_request, found]
  refine ⟨⟨state, lookup, Except.ok (some balancer), (answer lookup state).2⟩, rfl, rfl, ?_, ?_⟩
  · exact congrArg (fun rest => _ :: Program.transcript answer rest _) (goesOn balancer)
  · exact congrArg (fun rest => Program.run answer rest _) (goesOn balancer)

/-- A removal that found a load balancer makes the next call after every one that was accepted. -/
theorem firstCall?_of_delete
    (found :
      (answer (.cloud (.findLoadBalancer (controller.naming.loadBalancerName key))) state).1 =
        Except.ok (some balancer))
    (split :
      (ExceptT.run (controller.delete key)).transcript answer state = earlier ++ exchange :: later)
    (external : exchange.asked.isExternal = true)
    (isAccepted : exchange.refusal? = none) :
    firstCall? later = nextCall key balancer exchange.asked := by
  have accepted :=
    (controller.failsFast_delete key).refusal?_eq_none_before answer state split
      fun event isReport => by simp [isReport, Request.isExternal] at external
  rcases transcript_delete_of_found answer found with ⟨asks, isLookup, -, whole, -⟩
  rw [whole] at split
  cases earlier with
  | nil =>
      rcases List.cons.inj split with ⟨rfl, rfl⟩
      rw [isLookup]
      rfl
  | cons first earlier =>
      rcases List.cons.inj split with ⟨rfl, tail⟩
      exact (proceeds_teardown key balancer _).firstCall?_of_split answer tail
        (fun other member => accepted other (List.mem_cons_of_mem _ member)) isAccepted

/-- A removal of which nothing was refused has succeeded. -/
theorem delete_eq_ok_of_accepted
    (found :
      (answer (.cloud (.findLoadBalancer (controller.naming.loadBalancerName key))) state).1 =
        Except.ok (some balancer))
    (accepted :
      ∀ other ∈ (ExceptT.run (controller.delete key)).transcript answer state,
        other.refusal? = none) :
    ((ExceptT.run (controller.delete key)).run answer state).1 = .ok () := by
  rcases transcript_delete_of_found answer found with ⟨asks, -, -, whole, ran⟩
  rw [whole] at accepted
  rw [ran]
  have restAccepted := fun other member => accepted other (List.mem_cons_of_mem asks member)
  rcases (proceeds_teardown key balancer _).eq_ok_of_accepted answer restAccepted with
    ⟨done, succeeds⟩
  exact succeeds

end

end Controller

/-! ## Under a context that has ended -/

namespace World

variable {Value : Type} {world : World}

theorem CloudCallFate.record_of_not_isLive
    {call : CloudCall}
    {reply : Except CloudError call.Answer}
    {later : World}
    (fate : CloudCallFate world call reply later)
    (dead : ¬ world.IsLive) :
    later.cloud = world.cloud ∧ later.journal = world.journal := by
  cases fate with
  | ended isCancellation moved _ => exact ⟨moved.cloud, moved.journal⟩
  | failed placed waited live moved => exact absurd (waited.isLive live) dead
  | received waited live moved => exact absurd (waited.isLive live) dead

theorem CollaboratorCallFate.record_of_not_isLive
    {call : CollaboratorCall}
    {reply : Except Cause call.Answer}
    {later : World}
    (fate : CollaboratorCallFate world call reply later)
    (dead : ¬ world.IsLive) :
    later.cloud = world.cloud ∧ later.journal = world.journal := by
  cases fate with
  | ended isCancellation moved _ => exact ⟨moved.cloud, moved.journal⟩
  | failed placed waited live moved => exact absurd (waited.isLive live) dead
  | answered waited live moved => exact absurd (waited.isLive live) dead

/-- Nothing reaches the cloud or a collaborator once the context has ended. -/
theorem record_answer_of_not_isLive
    (dead : ¬ world.IsLive)
    (asked : Request) :
    (answer asked world).2.cloud = world.cloud ∧ (answer asked world).2.journal = world.journal := by
  cases asked with
  | annotationsOf key => exact ⟨rfl, rfl⟩
  | configuration => exact ⟨rfl, rfl⟩
  | checkpoint operation => exact ⟨rfl, rfl⟩
  | report event => exact ⟨rfl, rfl⟩
  | cloud call => exact (world.cloudCall_fate call).record_of_not_isLive dead
  | collaborator call => exact (world.collaboratorCall_fate call).record_of_not_isLive dead

theorem not_isLive_answer
    (dead : ¬ world.IsLive)
    (asked : Request) :
    ¬ (answer asked world).2.IsLive :=
  fun live => dead ((elapsed_answer asked world).isLive live)

/-- A run under a context that has ended leaves the cloud and the journal as they are. -/
theorem record_run_of_not_isLive
    (dead : ¬ world.IsLive)
    (program : Program Value) :
    (program.run answer world).2.cloud = world.cloud ∧
      (program.run answer world).2.journal = world.journal := by
  let Still (moment : World) : Prop :=
    ¬ moment.IsLive ∧ moment.cloud = world.cloud ∧ moment.journal = world.journal
  have step (asked : Request) (moment : World) (still : Still moment) :
      Still (answer asked moment).2 := by
    have kept := record_answer_of_not_isLive still.1 asked
    exact ⟨not_isLive_answer still.1 asked, kept.1.trans still.2.1, kept.2.trans still.2.2⟩
  exact (Program.run_invariant answer step program world ⟨dead, rfl, rfl⟩).2

/-- Every call under a context that has ended is refused as cancelled. -/
theorem refused_of_mem_transcript
    (dead : ¬ world.IsLive)
    (program : Program Value) :
    ∀ exchange ∈ program.transcript answer world, exchange.asked.isExternal = true →
      ∃ cause, exchange.refusal? = some cause ∧ cause.isCancellation = true := by
  intro exchange member external
  let Ended (moment : World) : Prop := ¬ moment.IsLive
  have step (asked : Request) (moment : World) (ended : Ended moment) :
      Ended (answer asked moment).2 := not_isLive_answer ended asked
  have deadBefore := Program.transcript_invariant answer step program world dead exchange member
  have deadReached : ¬ (exchange.before.reached exchange.asked).IsLive :=
    fun live => deadBefore ((later_reached _ _).isLive live)
  rw [Exchange.refusal?, Program.reply_of_mem_transcript answer exchange member]
  exact refused_of_not_isLive external deadReached

/-! ### Hooks -/

theorem hooks_cancelIf
    (world : World)
    (asked : Bool) :
    (world.cancelIf asked).hooks = world.hooks := by
  cases asked with
  | false => rfl
  | true => rfl

theorem hooks_checkedCall
    (world : World)
    (call : CollaboratorCall)
    (hook : Hook) :
    (world.checkedCall call hook).2.hooks = world.hooks := by
  rw [checkedCall]
  cases world.check call.point with
  | error error => rfl
  | ok done =>
      dsimp only
      rw [takeCall]
      cases hook.failure with
      | some failure => exact hooks_cancelIf _ _
      | none => exact hooks_cancelIf _ _

/-- A call to a collaborator takes the hook of its point and no other. -/
theorem hooks_collaboratorCall
    (world : World)
    (call : CollaboratorCall) :
    (world.collaboratorCall call).2.hooks = world.hooks.erase call.point := by
  have taken : (world.begun call.point).hooks = world.hooks.erase call.point := hooks_cancelIf _ _
  show ((world.begun call.point).delayedCall call (world.takeHook call.point).1).2.hooks = _
  rw [delayedCall_snd, hooks_checkedCall, ← taken]
  rfl

/-- What is asked inside the controller takes no hook. -/
theorem hooks_run_of_internal
    (program : Program Value)
    (internal : externals (program.transcript answer world) = []) :
    (program.run answer world).2.hooks = world.hooks := by
  induction program generalizing world with
  | done value => rfl
  | request asked next ih =>
      rw [Program.transcript_request, externals, List.filter_cons] at internal
      cases asked with
      | configuration => exact ih _ internal
      | report event => exact ih _ internal
      | _ => cases internal

end World

/-! ## Removals whose context ends -/

theorem externals_eq_nil_of_onlyReports
    {State : Type}
    {exchanges : List (Exchange State)}
    (onlyReports : ∀ exchange ∈ exchanges, ∃ event, exchange.asked = .report event) :
    externals exchanges = [] := by
  refine List.filter_eq_nil_iff.mpr fun exchange member => ?_
  rcases onlyReports exchange member with ⟨event, isReport⟩
  simp [isReport, Request.isExternal]

namespace Controller

variable {world : World} {controller : Controller} {key : IngressKey} {balancer : LoadBalancer}
  {earlier later : List (Exchange World)} {exchange : Exchange World}

/-- The ways in which a removal ends whose context has ended by the end of some exchange. -/
inductive LateStop
    (controller : Controller)
    (key : IngressKey)
    (balancer : LoadBalancer)
    (world : World)
    (exchange : Exchange World)
    (later : List (Exchange World)) : Prop where
  /-- The call was refused: nothing else is called, and the error goes back to what refused it. -/
  | refused
      {cause : Cause}
      {error : ControllerError}
      (isRefused : exchange.refusal? = some cause)
      (nothingCalled : externals later = [])
      (fails : (world.run (controller.delete key)).1 = .error error)
      (leadsTo : (Cause.controller error).LeadsTo cause)
      (isCancellation :
        ¬ (exchange.before.reached exchange.asked).IsLive → error.isCancellation = true)
  /-- The call was accepted: the next one is made nevertheless, at its hook if it has one, and refused. -/
  | oneCallLate
      {next : Exchange World}
      {cause : Cause}
      {error : ControllerError}
      (isAccepted : exchange.refusal? = none)
      (called : externals later = [next])
      (isNext : nextCall key balancer exchange.asked = some next.asked)
      (isRefused : next.refusal? = some cause)
      (fails : (world.run (controller.delete key)).1 = .error error)
      (isCancellation : error.isCancellation = true)
      (hookTaken :
        ∀ call, next.asked = .collaborator call →
          (world.run (controller.delete key)).2.hooks.lookup call.point = none)
  /-- The call was the last one: the load balancer had been deleted already. -/
  | deleted
      (isAccepted : exchange.refusal? = none)
      (isLast : nextCall key balancer exchange.asked = none)
      (nothingCalled : externals later = [])
      (succeeds : (world.run (controller.delete key)).1 = .ok ())
      (isDeleted : exchange.after.cloud.tables = world.cloud.tables.delete balancer.arn)

/-- A call of a removal that was refused is the last one. -/
theorem lateStop_of_refused
    {cause : Cause}
    (split :
      (ExceptT.run (controller.delete key)).transcript World.answer world =
        earlier ++ exchange :: later)
    (external : exchange.asked.isExternal = true)
    (isRefused : exchange.refusal? = some cause) :
    controller.LateStop key balancer world exchange later := by
  rcases (controller.failsFast_delete key).stops_after World.answer world split isRefused with
    ⟨⟨error, fails, leadsTo⟩, onlyReports⟩
  refine .refused isRefused (externals_eq_nil_of_onlyReports onlyReports) fails leadsTo fun dead => ?_
  have member : exchange ∈ (ExceptT.run (controller.delete key)).transcript World.answer world := by
    rw [split]
    exact List.mem_append_right _ List.mem_cons_self
  rcases ((controller.respects_context world).2 key).failsAsCancelled exchange member external
    (.inr dead) with ⟨error', fails', isCancellation⟩
  cases fails.symm.trans fails'
  exact isCancellation

/-- Of an accepted call that ends with the context the next one is made and refused. -/
theorem lateStop_of_next
    {next : Exchange World}
    {between rest : List (Exchange World)}
    (split :
      (ExceptT.run (controller.delete key)).transcript World.answer world =
        earlier ++ exchange :: (between ++ next :: rest))
    (dead : ¬ exchange.after.IsLive)
    (isAccepted : exchange.refusal? = none)
    (internal : ∀ other ∈ between, ¬ other.asked.isExternal = true)
    (external : next.asked.isExternal = true)
    (isNext : nextCall key balancer exchange.asked = some next.asked) :
    controller.LateStop key balancer world exchange (between ++ next :: rest) := by
  rcases Program.exists_rest_of_split World.answer split with ⟨program, same, -⟩
  have member : next ∈ program.transcript World.answer exchange.after := by
    rw [← same]
    exact List.mem_append_right _ List.mem_cons_self
  rcases World.refused_of_mem_transcript dead program next member external with
    ⟨cause, isRefused, isCancellation⟩
  have splitAtNext :
      (ExceptT.run (controller.delete key)).transcript World.answer world =
        (earlier ++ exchange :: between) ++ next :: rest := by
    rw [split, List.append_assoc, List.cons_append]
  rcases (controller.failsFast_delete key).stops_after World.answer world splitAtNext isRefused with
    ⟨⟨error, fails, leadsTo⟩, onlyReports⟩
  have nothingElse := externals_eq_nil_of_onlyReports onlyReports
  have called : externals (between ++ next :: rest) = [next] := by
    have noneBetween : externals between = [] := List.filter_eq_nil_iff.mpr internal
    rw [externals, List.filter_append, List.filter_cons, if_pos external]
    rw [externals] at noneBetween nothingElse
    rw [noneBetween, nothingElse, List.nil_append]
  have goesBack : (Cause.controller error).isCancellation = cause.isCancellation :=
    leadsTo.isCancellation_eq
  refine .oneCallLate isAccepted called isNext isRefused fails (goesBack.trans isCancellation) ?_
  intro call isCall
  rcases Program.exists_rest_of_split World.answer splitAtNext with ⟨last, sameRest, ran⟩
  have left := Program.after_of_mem_transcript World.answer next member
  rw [sameRest] at nothingElse
  rw [World.run, ran, World.hooks_run_of_internal last nothingElse, left, isCall]
  show (next.before.collaboratorCall call).2.hooks.lookup call.point = none
  rw [World.hooks_collaboratorCall, Table.lookup_erase, if_pos rfl]

/-- An accepted call after which no other is made was the deletion of the load balancer. -/
theorem lateStop_of_last
    (found :
      world.cloud.tables.findByName (controller.naming.loadBalancerName key) = some balancer)
    (split :
      (ExceptT.run (controller.delete key)).transcript World.answer world =
        earlier ++ exchange :: later)
    (dead : ¬ exchange.after.IsLive)
    (isAccepted : exchange.refusal? = none)
    (isLast : nextCall key balancer exchange.asked = none)
    (nothingCalled : externals later = [])
    (succeeds : (world.run (controller.delete key)).1 = .ok ()) :
    controller.LateStop key balancer world exchange later := by
  refine .deleted isAccepted isLast nothingCalled succeeds ?_
  rcases Program.exists_rest_of_split World.answer split with ⟨program, -, ran⟩
  have still := (World.record_run_of_not_isLive dead program).1
  rw [← ran] at still
  have course := removalCourse_of_run world controller key
  rw [succeeds, World.run, still] at course
  generalize after : exchange.after.cloud.tables = tables at course ⊢
  cases course with
  | nothing absent => cases absent.symm.trans found
  | removed foundToo =>
      cases found.symm.trans foundToo
      rfl

/-- A removal of which anything was accepted found the load balancer that there is. -/
theorem lookup_eq_ok_of_accepted
    (found :
      world.cloud.tables.findByName (controller.naming.loadBalancerName key) = some balancer)
    (split :
      (ExceptT.run (controller.delete key)).transcript World.answer world =
        earlier ++ exchange :: later)
    (accepted : ∀ other ∈ earlier, other.refusal? = none)
    (isAccepted : exchange.refusal? = none) :
    (World.answer (.cloud (.findLoadBalancer (controller.naming.loadBalancerName key))) world).1 =
      Except.ok (some balancer) := by
  let lookup : CloudCall := .findLoadBalancer (controller.naming.loadBalancerName key)
  rcases controller.exists_delete_eq_request key with ⟨next, opened, -⟩
  rw [opened, Program.transcript_request] at split
  have notRefused : Request.refusal? (.cloud lookup) (World.answer (.cloud lookup) world).1 = none := by
    cases earlier with
    | nil =>
        rcases List.cons.inj split with ⟨rfl, -⟩
        exact isAccepted
    | cons first earlier =>
        rcases List.cons.inj split with ⟨rfl, -⟩
        exact accepted _ List.mem_cons_self
  change (world.cloudCall lookup).1 = _
  change (failureOf? (world.cloudCall lookup).1).map Cause.cloud = none at notRefused
  rcases world.cloudCall_tables lookup with ⟨error, failed, -⟩ | ⟨given, answered, -, performed⟩
  · rw [failed] at notRefused
    cases notRefused
  · rcases Prod.mk.inj (Except.ok.inj performed) with ⟨isFound, -⟩
    rw [answered, ← isFound, found]
    rfl

/-- Where a removal finds a load balancer, every call that ends with the context is one of the last. -/
theorem lateStop_of_split
    (found :
      world.cloud.tables.findByName (controller.naming.loadBalancerName key) = some balancer)
    (split :
      (ExceptT.run (controller.delete key)).transcript World.answer world =
        earlier ++ exchange :: later)
    (external : exchange.asked.isExternal = true)
    (dead : ¬ exchange.after.IsLive) :
    controller.LateStop key balancer world exchange later := by
  cases refusal : exchange.refusal? with
  | some cause => exact lateStop_of_refused split external refusal
  | none =>
      have earlierAccepted :=
        (controller.failsFast_delete key).refusal?_eq_none_before World.answer world split
          fun event isReport => by simp [isReport, Request.isExternal] at external
      have answered := lookup_eq_ok_of_accepted found split earlierAccepted refusal
      have first := firstCall?_of_delete World.answer answered split external refusal
      cases called : externals later with
      | nil =>
          rw [firstCall?, called] at first
          have laterAccepted (other : Exchange World) (member : other ∈ later) :
              other.refusal? = none := by
            have internal := List.filter_eq_nil_iff.mp called other member
            exact Request.refusal?_eq_none_of_not_isExternal _ (by simpa using internal)
          have succeeds := delete_eq_ok_of_accepted World.answer answered (by
            rw [split]
            intro other member
            rcases List.mem_append.mp member with before | atOrAfter
            · exact earlierAccepted other before
            · rcases List.mem_cons.mp atOrAfter with rfl | after
              · exact refusal
              · exact laterAccepted other after)
          exact lateStop_of_last found split dead refusal first.symm called succeeds
      | cons next more =>
          rw [firstCall?, called] at first
          rcases List.filter_eq_cons_iff.mp called with ⟨between, rest, rfl, internal, isExternal, -⟩
          exact lateStop_of_next split dead refusal internal isExternal first.symm

/-- Removals of a load balancer stop late: whatever is answered, the next call is made after every one
that was accepted, with no question between them whether it may be.  What ends with the context is
therefore followed by one more call, which is refused; nothing is recorded any more. -/
structure StopsLate
    (controller : Controller)
    (key : IngressKey)
    (balancer : LoadBalancer) : Prop where
  goesOn :
    ∀ (State : Type) (answer : (asked : Request) → State → asked.Reply × State) (state : State)
      (earlier : List (Exchange State)) (exchange : Exchange State) (later : List (Exchange State)),
      (answer (.cloud (.findLoadBalancer (controller.naming.loadBalancerName key))) state).1 =
          Except.ok (some balancer) →
        (ExceptT.run (controller.delete key)).transcript answer state =
            earlier ++ exchange :: later →
          exchange.asked.isExternal = true → exchange.refusal? = none →
            firstCall? later = nextCall key balancer exchange.asked
  recordsNothing :
    ∀ (world : World) (earlier : List (Exchange World)) (exchange : Exchange World)
      (later : List (Exchange World)),
      (ExceptT.run (controller.delete key)).transcript World.answer world =
          earlier ++ exchange :: later →
        ¬ exchange.after.IsLive →
          (world.run (controller.delete key)).2.cloud = exchange.after.cloud ∧
            (world.run (controller.delete key)).2.journal = exchange.after.journal
  ends :
    ∀ (world : World) (earlier : List (Exchange World)) (exchange : Exchange World)
      (later : List (Exchange World)),
      world.cloud.tables.findByName (controller.naming.loadBalancerName key) = some balancer →
        (ExceptT.run (controller.delete key)).transcript World.answer world =
            earlier ++ exchange :: later →
          exchange.asked.isExternal = true → ¬ exchange.after.IsLive →
            controller.LateStop key balancer world exchange later

/-- Every removal of a load balancer whose context ends stops late. -/
theorem delete_stops_late
    (controller : Controller)
    (key : IngressKey)
    (balancer : LoadBalancer) :
    controller.StopsLate key balancer where
  goesOn := fun _ answer _ _ _ _ found split external isAccepted =>
    firstCall?_of_delete answer found split external isAccepted
  recordsNothing := by
    intro world earlier exchange later split dead
    rcases Program.exists_rest_of_split World.answer split with ⟨program, -, ran⟩
    rw [World.run, ran]
    exact World.record_run_of_not_isLive dead program
  ends := fun _ _ _ _ found split external dead => lateStop_of_split found split external dead

/-- What a removal would do if it asked before each call whether it may be made: once the context has
ended no collaborator is called and the tables stay, and it fails as cancelled unless the load balancer
was deleted before. -/
structure StopsAtOnce
    (controller : Controller)
    (key : IngressKey)
    (world : World) : Prop where
  callsNothing :
    ∀ (earlier : List (Exchange World)) (exchange : Exchange World) (later : List (Exchange World)),
      (ExceptT.run (controller.delete key)).transcript World.answer world =
          earlier ++ exchange :: later →
        exchange.asked.isExternal = true → ¬ exchange.after.IsLive →
          ∀ next ∈ later, ∀ call, next.asked ≠ .collaborator call
  keepsTables :
    ∀ (earlier : List (Exchange World)) (exchange : Exchange World) (later : List (Exchange World)),
      (ExceptT.run (controller.delete key)).transcript World.answer world =
          earlier ++ exchange :: later →
        exchange.asked.isExternal = true → ¬ exchange.after.IsLive →
          (world.run (controller.delete key)).2.cloud.tables = exchange.after.cloud.tables
  failsAsCancelled :
    ∀ (earlier : List (Exchange World)) (exchange : Exchange World) (later : List (Exchange World)),
      (ExceptT.run (controller.delete key)).transcript World.answer world =
          earlier ++ exchange :: later →
        exchange.asked.isExternal = true → ¬ exchange.after.IsLive →
          (∃ error, (world.run (controller.delete key)).1 = .error error ∧
              error.isCancellation = true) ∨
            exchange.after.cloud.tables.findByName (controller.naming.loadBalancerName key) = none

end Controller

/-! ## A removal that is cancelled between two calls -/

namespace HurriedCloud

open StaleCloud (controller key balancer)

/-- The context is cancelled as soon as security groups were removed, and a failure waits for the call
that follows. -/
def world : World :=
  (StaleCloud.world.setHook "sg.delete" fun hook => { hook with cancelsAfter := true }).setHook
    "ls.delete" fun hook => { hook with failure := some (.text "boom") }

/-- The request for the load balancer. -/
def lookup : Request := .cloud (.findLoadBalancer (controller.naming.loadBalancerName key))

/-- The request to remove its security groups. -/
def detaching : Request :=
  .collaborator (.deleteSecurityGroups (.forDeletion key balancer.name balancer.arn))

/-- The world in which the load balancer was found. -/
def foundIn : World := (World.answer lookup world).2

/-- The world in which its security groups were removed. -/
def detachedIn : World := (World.answer detaching foundIn).2

theorem found :
    world.cloud.tables.findByName (controller.naming.loadBalancerName key) = some balancer :=
  StaleCloud.found

theorem finds : (World.answer lookup world).1 = Except.ok (some balancer) :=
  congrArg Except.ok found

theorem not_isLive_detachedIn : ¬ detachedIn.IsLive := by
  intro live
  cases live.notCancelled

/-- The security groups are removed once the load balancer was found, and then the context has ended. -/
theorem exists_split :
    ∃ (asks exchange : Exchange World) (later : List (Exchange World)),
      (ExceptT.run (controller.delete key)).transcript World.answer world =
          [asks] ++ exchange :: later ∧
        exchange.asked = detaching ∧ exchange.refusal? = none ∧ ¬ exchange.after.IsLive := by
  rcases Controller.transcript_delete_of_found World.answer finds with ⟨asks, -, left, whole, -⟩
  refine ⟨asks, ⟨asks.after, detaching, (World.answer detaching asks.after).1,
    (World.answer detaching asks.after).2⟩, _, whole, rfl, ?_, ?_⟩
  · show detaching.refusal? (World.answer detaching asks.after).1 = none
    rw [left]
    rfl
  · show ¬ (World.answer detaching asks.after).2.IsLive
    rw [left]
    exact not_isLive_detachedIn

end HurriedCloud

/-- A removal whose context is cancelled after the first of its calls still makes the second, and fails as
cancelled. -/
theorem Controller.delete_stops_late_hurriedCloud :
    ∃ exchange later,
      ¬ exchange.after.IsLive ∧
        firstCall? later =
          some (.collaborator (.deleteListeners StaleCloud.balancer.arn)) ∧
        StaleCloud.controller.LateStop StaleCloud.key StaleCloud.balancer HurriedCloud.world exchange
          later := by
  rcases HurriedCloud.exists_split with ⟨asks, exchange, later, split, isDetaching, accepted, dead⟩
  have stops :=
    delete_stops_late StaleCloud.controller StaleCloud.key StaleCloud.balancer
  have external : exchange.asked.isExternal = true := by
    rw [isDetaching]
    rfl
  refine ⟨exchange, later, dead, ?_, ?_⟩
  · rw [stops.goesOn World World.answer HurriedCloud.world [asks] exchange later HurriedCloud.finds
      split external accepted, isDetaching]
    rfl
  · exact stops.ends HurriedCloud.world [asks] exchange later HurriedCloud.found split external dead

/-- That removal does not stop at once: it calls for the removal of the listeners, and the failure that
waits there is used up. -/
theorem Controller.hurriedCloud_not_stopsAtOnce :
    HurriedCloud.world.cloud.tables.findByName
          (StaleCloud.controller.naming.loadBalancerName StaleCloud.key) =
        some StaleCloud.balancer ∧
      ¬ StaleCloud.controller.StopsAtOnce StaleCloud.key HurriedCloud.world ∧
      (HurriedCloud.world.hooks.lookup "ls.delete").isSome ∧
      (HurriedCloud.world.run
        (StaleCloud.controller.delete StaleCloud.key)).2.hooks.lookup "ls.delete" = none := by
  rcases HurriedCloud.exists_split with ⟨asks, exchange, later, split, isDetaching, accepted, dead⟩
  have external : exchange.asked.isExternal = true := by
    rw [isDetaching]
    rfl
  have late :=
    lateStop_of_split HurriedCloud.found split external dead
  cases late with
  | refused isRefused => cases accepted.symm.trans isRefused
  | deleted isAccepted isLast =>
      rw [isDetaching] at isLast
      cases isLast
  | @oneCallLate next cause error isAccepted called isNext isRefused fails isCancellation hookTaken =>
      rw [isDetaching] at isNext
      have isListeners : next.asked = .collaborator (.deleteListeners StaleCloud.balancer.arn) :=
        (Option.some.inj isNext).symm
      have member : next ∈ later :=
        List.mem_of_mem_filter (called ▸ List.mem_singleton_self next)
      refine ⟨HurriedCloud.found, ?_, rfl, hookTaken _ isListeners⟩
      intro stops
      exact stops.callsNothing [asks] exchange later split external dead next member _ isListeners

end IngressConvergence
