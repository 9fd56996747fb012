import IngressConvergence.Proofs.Operation
import IngressConvergence.Proofs.SelfHealing
import IngressConvergence.Proofs.World.Beginning

/-!
# Only listed ingresses face the internet

When schemes are restricted, an ingress that is not on the allow-list gets no load balancer that faces
the internet, whatever happens to its cycles: none is asked for, a cycle that would need one changes
nothing and fails, and no other call changes a scheme.  In a cloud that began empty every load balancer
that faces the internet was therefore created for an ingress on the list.  All this is
`Controller.internetFacing_policy`.
-/

namespace IngressConvergence

/-! ## What a cycle asks to be created -/

/-- The likeness of a run with itself that creates only what a condition admits. -/
def Likeness.ofCreation
    (name : String)
    (mayCreate : CreateRequest → Prop)
    (configuration : Configuration) : Likeness where
  name := name
  same := Eq
  isOwn := fun _ => True
  mayCreate := mayCreate
  inForce := fun found => found = configuration

/-- A likeness permits every creation that is asked for. -/
theorem Request.Alike.mayCreate
    {likeness : Likeness}
    {asked asked' : Request}
    {replies : asked.Reply → asked'.Reply → Prop}
    (alike : asked.Alike likeness asked' replies)
    {request : CreateRequest}
    (asks : Effect.cloud (.createLoadBalancer request) ∈ asked.effects) :
    likeness.mayCreate request := by
  cases alike with
  | cloud alike =>
      cases List.mem_singleton.mp asks
      cases alike with
      | createLoadBalancer mayCreate => exact mayCreate
  | collaborator alike => cases List.mem_singleton.mp asks
  | _ => cases asks

namespace World

variable {Failure Value : Type} {world : World}

/-- What is on record was asked for. -/
theorem exists_asked_of_mem_recordOf
    {program : Program Value}
    {effect : Effect}
    (recorded : effect ∈ world.recordOf program) :
    ∃ exchange ∈ program.transcript answer world, effect ∈ exchange.asked.effects := by
  induction program generalizing world with
  | done value => cases recorded
  | request asked next ih =>
      rw [recordOf_request] at recorded
      rw [Program.transcript_request]
      rcases List.mem_append.mp recorded with now | later
      · refine ⟨_, List.mem_cons_self, ?_⟩
        rcases recordedUntil_answer asked world with same | ⟨nothing, -⟩
        · exact same ▸ now
        · rw [nothing] at now
          cases now
      · rcases ih _ later with ⟨exchange, member, asks⟩
        exact ⟨exchange, List.mem_cons_of_mem _ member, asks⟩

/-- A program that creates only what a condition admits has only such creations on record. -/
theorem mayCreate_of_recorded
    {name : String}
    {mayCreate : CreateRequest → Prop}
    {results : Value → Value → Prop}
    {program : Program Value}
    (alike :
      program.Alike (.ofCreation name mayCreate world.store.configuration) results program)
    {request : CreateRequest}
    (recorded : .cloud (.createLoadBalancer request) ∈ world.recordOf program) :
    mayCreate request := by
  have preserved (asked : Request) (replies : asked.Reply → asked.Reply → Prop) (moment : World)
      (alike :
        asked.Alike (.ofCreation name mayCreate world.store.configuration) asked replies)
      (sameStore : moment.store = world.store) :
      replies (answer asked moment).1 (answer asked moment).1 ∧
        (answer asked moment).2.store = world.store := by
    constructor
    · exact replies_self alike (fun _ => rfl) (congrArg Store.configuration sameStore)
        (fun _ _ => trivial) fun _ _ _ _ _ => trivial
    · exact (elapsed_answer asked moment).store.trans sameStore
  have keeps := alike.keeps rfl answer preserved world rfl
  rcases exists_asked_of_mem_recordOf recorded with ⟨exchange, member, asks⟩
  rcases keeps.2 exchange member with ⟨replies, alike⟩
  exact alike.mayCreate asks

end World

/-! ## Cycles under a restricting configuration -/

/-- A configuration lets an ingress have load balancers that face the internet. -/
def Configuration.Exposes
    (configuration : Configuration)
    (key : IngressKey) : Prop :=
  configuration.restrictScheme = false ∨ configuration.HasListed key

theorem DesiredState.exposes_of_isAllowed
    {configuration : Configuration}
    {key : IngressKey}
    {desired : DesiredState}
    (allowed : isAllowed configuration key desired = true)
    (faces : desired.scheme = .internetFacing) :
    configuration.Exposes key := by
  simp only [isAllowed, faces, decide_true, Bool.and_true, Bool.not_and, Bool.not_not,
    Bool.or_eq_true, Bool.not_eq_true', Configuration.allows_iff] at allowed
  exact allowed

namespace World

variable {world : World} {controller : Controller} {ingress : Ingress} {key : IngressKey}
  {request : CreateRequest}

/-- A load balancer that a cycle asks for has the name of the ingress, and it faces the internet only
if the configuration in force lets it. -/
theorem exposes_of_recorded
    (named : IngressKey.ofIngress? ingress = some key)
    (recorded :
      .cloud (.createLoadBalancer request) ∈ world.record (controller.reconcile ingress)) :
    request.name = controller.naming.loadBalancerName key ∧
      (request.scheme = .internetFacing → world.store.configuration.Exposes key) := by
  let mayCreate (request : CreateRequest) : Prop :=
    request.name = controller.naming.loadBalancerName key ∧
      (request.scheme = .internetFacing → world.store.configuration.Exposes key)
  let likeness : Likeness :=
    .ofCreation (controller.naming.loadBalancerName key) mayCreate world.store.configuration
  have alike :
      (controller.reconcile ingress).Alike likeness likeness.errors likeness.same
        (controller.reconcile ingress) := by
    apply Controller.alike_reconcile
    · intro other otherNamed
      cases named.symm.trans otherNamed
      rfl
    · intro other otherNamed configuration desired inForce allowed desiredNamed
      cases named.symm.trans otherNamed
      cases inForce
      exact ⟨desiredNamed, DesiredState.exposes_of_isAllowed allowed⟩
  exact mayCreate_of_recorded alike recorded

/-- A removal asks for no load balancer. -/
theorem not_recorded_of_delete :
    .cloud (.createLoadBalancer request) ∉ world.record (controller.delete key) := by
  intro recorded
  let likeness : Likeness :=
    .ofCreation (controller.naming.loadBalancerName key) (fun _ => False)
      world.store.configuration
  have alike :
      (controller.delete key).Alike likeness likeness.errors (fun _ _ => True)
        (controller.delete key) :=
    Controller.alike_delete rfl
  exact mayCreate_of_recorded alike recorded

/-- The configuration in force keeps an ingress from what its annotations ask for. -/
structure Forbids
    (world : World)
    (key : IngressKey)
    (annotations : IngressAnnotations) : Prop where
  restricts : world.store.configuration.restrictScheme = true
  notListed : ¬ world.store.configuration.HasListed key
  cached : world.store.annotations key = some annotations
  asks : annotations.loadBalancer.scheme = .internetFacing

/-- How a cycle ends that is forbidden: with the first of the failures to have the annotations and to
resolve the subnets, or else with a violation of the policy. -/
def refusal
    (world : World)
    (key : IngressKey)
    (annotations : LoadBalancerAnnotations) : ControllerError :=
  match world.store.annotationsOf world.context world.timeline key with
  | .error cause => .store key.text cause
  | .ok _ =>
    match (world.run (DesiredState.resolveSubnets annotations.subnets annotations.scheme)).1 with
    | .error error => .configBuild key.text error
    | .ok _ => DesiredState.notAllowed key

/-- Whatever the subnets are, what is desired may not be. -/
theorem Forbids.isAllowed_eq_false
    {annotations : IngressAnnotations}
    (forbids : world.Forbids key annotations)
    (policy : NamingPolicy)
    (subnets : List String) :
    DesiredState.isAllowed world.store.configuration key
      (.ofSubnets policy key annotations subnets) = false := by
  have refused : world.store.configuration.allows key = false :=
    Bool.eq_false_iff.mpr (mt Configuration.allows_iff.mp forbids.notListed)
  simp [DesiredState.isAllowed, DesiredState.ofSubnets, forbids.restricts, refused, forbids.asks]

/-- A cycle that is forbidden is refused before the load balancer is looked for. -/
theorem Forbids.run_converge
    {annotations : IngressAnnotations}
    (forbids : world.Forbids key annotations)
    (controller : Controller)
    (ingress : Ingress) :
    (world.run (controller.converge key ingress)).1 =
        .error (world.refusal key annotations.loadBalancer) ∧
      Unchanged world (world.run (controller.converge key ingress)).2 := by
  rcases world.run_converge_cases controller key ingress with
    ⟨error, stops, fails, unchanged⟩ | ⟨found, subnets, prepared, begins, -⟩
  · refine ⟨fails.trans (congrArg Except.error ?_), unchanged⟩
    cases stops with
    | notGiven given => rw [refusal, given]
    | notResolved given resolved =>
        cases forbids.cached.symm.trans (cached_of_annotationsOf given)
        rw [refusal, given]
        dsimp only
        rw [resolved]
    | notAllowed given resolved refused =>
        cases forbids.cached.symm.trans (cached_of_annotationsOf given)
        rw [refusal, given]
        dsimp only
        rw [resolved]
  · cases forbids.cached.symm.trans begins.cached
    have refused := forbids.isAllowed_eq_false controller.naming subnets
    rw [begins.allowed] at refused
    cases refused

/-- A cycle that is forbidden fails and changes nothing. -/
theorem Forbids.run_reconcile
    {annotations : IngressAnnotations}
    (named : IngressKey.ofIngress? ingress = some key)
    (forbids : world.Forbids key annotations)
    (controller : Controller) :
    (world.run (controller.reconcile ingress)).1 =
        .error ((world.started key).refusal key annotations.loadBalancer) ∧
      Unchanged world (world.run (controller.reconcile ingress)).2 := by
  have forbidden : (world.started key).Forbids key annotations := { forbids with }
  rcases forbidden.run_converge controller ingress with ⟨fails, unchanged⟩
  rcases world.run_reconcile_of_ofIngress? named controller with ⟨sameResult, reported⟩
  exact ⟨sameResult.trans fails, (world.unchanged_started key).trans (unchanged.trans reported)⟩

end World

/-! ## Where load balancers that face the internet come from -/

open CloudTables (IsContinued)

/-- What may happen between operations: anything but a change to the load balancers or to the
configuration. -/
structure World.SameRestrictions
    (world later : World) : Prop where
  loadBalancers : later.cloud.tables.loadBalancers = world.cloud.tables.loadBalancers
  configuration : later.store.configuration = world.store.configuration

namespace Controller

/-- A cycle for an ingress on the allow-list created the load balancer that is stored under a handle. -/
structure CreatedListed
    (controller : Controller)
    (moment : World)
    (ingress : Ingress)
    (arn : String)
    (balancer : LoadBalancer) : Prop where
  listed :
    ∃ key, IngressKey.ofIngress? ingress = some key ∧
      moment.store.configuration.HasListed key ∧
      balancer.name = controller.naming.loadBalancerName key
  creates :
    ∃ request,
      World.Creates (moment.record (controller.reconcile ingress)) moment.cloud.tables arn request ∧
      balancer.name = request.name ∧ balancer.scheme = request.scheme
  stored :
    ∃ created,
      (moment.run (controller.reconcile ingress)).2.cloud.tables.loadBalancers.lookup arn =
          some created ∧
        IsContinued created balancer

variable {controller : Controller} {moment world start last : World} {ingress : Ingress}
  {arn : String} {before balancer : LoadBalancer} {history : List (World × Operation)}

/-- What a load balancer was created for does not change while it continues. -/
theorem CreatedListed.of_isContinued
    (created : controller.CreatedListed moment ingress arn before)
    (continued : IsContinued before balancer) :
    controller.CreatedListed moment ingress arn balancer where
  listed := by
    rw [continued.name]
    exact created.listed
  creates := by
    rw [continued.name, continued.scheme]
    exact created.creates
  stored := by
    rcases created.stored with ⟨first, storedFirst, continuedFirst⟩
    exact ⟨first, storedFirst, continuedFirst.trans continued⟩

/-- What a cycle under a restricting configuration creates that faces the internet is for an ingress on
the allow-list. -/
theorem createdListed_of_creates
    {request : CreateRequest}
    (restricts : world.store.configuration.restrictScheme = true)
    (creates :
      World.Creates (world.record (controller.reconcile ingress)) world.cloud.tables arn request)
    (sameName : balancer.name = request.name)
    (sameScheme : balancer.scheme = request.scheme)
    (stored :
      (world.run (controller.reconcile ingress)).2.cloud.tables.loadBalancers.lookup arn =
        some balancer)
    (faces : balancer.scheme = .internetFacing) :
    controller.CreatedListed world ingress arn balancer := by
  cases named : IngressKey.ofIngress? ingress with
  | none =>
      have recorded := creates.recorded
      rw [reconcile, named] at recorded
      cases recorded
  | some key =>
      rcases World.exposes_of_recorded named creates.recorded with ⟨nameEq, exposes⟩
      have listed : world.store.configuration.HasListed key := by
        rcases exposes (sameScheme.symm.trans faces) with free | listed
        · rw [restricts] at free
          cases free
        · exact listed
      exact
        { listed := ⟨key, named, listed, sameName.trans nameEq⟩
          creates := ⟨request, creates, sameName, sameScheme⟩
          stored := ⟨balancer, stored, .refl balancer⟩ }

/-- In a history every load balancer that faces the internet comes from a cycle of it. -/
structure Accounts
    (controller : Controller)
    (start : World)
    (history : List (World × Operation))
    (world : World) : Prop where
  configuration : world.store.configuration = start.store.configuration
  created :
    ∀ arn balancer, world.cloud.tables.loadBalancers.lookup arn = some balancer →
      balancer.scheme = .internetFacing →
      ∃ moment ingress, (moment, .reconcile ingress) ∈ history ∧
        controller.CreatedListed moment ingress arn balancer

/-- One operation creates load balancers that face the internet for listed ingresses only. -/
theorem Accounts.operate
    (restricts : start.store.configuration.restrictScheme = true)
    (accounts : controller.Accounts start history world)
    (operation : Operation) :
    controller.Accounts start (history ++ [(world, operation)])
      (world.run (controller.attempt operation)).2 where
  configuration :=
    (congrArg Store.configuration (world.store_run _)).trans accounts.configuration
  created := by
    intro arn balancer stored faces
    rcases World.stored_of_run _ world stored with
      ⟨before, storedBefore, continued⟩ | ⟨request, creates, sameName, sameScheme⟩
    · rcases accounts.created arn before storedBefore (continued.scheme.symm.trans faces) with
        ⟨moment, ingress, member, created⟩
      exact ⟨moment, ingress, List.mem_append_left _ member, created.of_isContinued continued⟩
    · cases operation with
      | reconcile ingress =>
          refine ⟨world, ingress, List.mem_append_right _ List.mem_cons_self, ?_⟩
          rw [← accounts.configuration] at restricts
          exact createdListed_of_creates restricts creates sameName sameScheme stored faces
      | delete key => exact absurd creates.recorded World.not_recorded_of_delete

/-- Every load balancer that faces the internet at the end of a history was created in it for a listed
ingress. -/
theorem History.accounts
    (operated : controller.History World.SameRestrictions start history last)
    (empty : start.cloud.tables.loadBalancers = ∅)
    (restricts : start.store.configuration.restrictScheme = true) :
    controller.Accounts start history last := by
  induction operated with
  | start =>
      constructor
      · rfl
      · intro arn balancer stored
        rw [empty] at stored
        cases stored
  | operate earlier operation ih => exact ih.operate restricts operation
  | meanwhile earlier changed ih =>
      constructor
      · exact changed.configuration.trans ih.configuration
      · rw [changed.loadBalancers]
        exact ih.created

/-- A cycle asks for a load balancer that faces the internet only if the configuration in force lets
its ingress have one; a cycle that is kept from it fails and changes nothing; and where schemes were
always restricted, in a cloud that began without load balancers, those that face the internet were
created for ingresses on the allow-list. -/
theorem internetFacing_policy
    (controller : Controller) :
    (∀ (world : World) ingress key request,
        IngressKey.ofIngress? ingress = some key →
        .cloud (.createLoadBalancer request) ∈ world.record (controller.reconcile ingress) →
        request.scheme = .internetFacing →
        world.store.configuration.Exposes key) ∧
      (∀ (world : World) ingress key annotations,
        IngressKey.ofIngress? ingress = some key →
        world.Forbids key annotations →
        (world.run (controller.reconcile ingress)).1 =
            .error ((world.started key).refusal key annotations.loadBalancer) ∧
          world.Unchanged (world.run (controller.reconcile ingress)).2) ∧
      ∀ start history last,
        controller.History World.SameRestrictions start history last →
        start.cloud.tables.loadBalancers = ∅ →
        start.store.configuration.restrictScheme = true →
        ∀ arn balancer, last.cloud.tables.loadBalancers.lookup arn = some balancer →
          balancer.scheme = .internetFacing →
          ∃ moment ingress, (moment, .reconcile ingress) ∈ history ∧
            controller.CreatedListed moment ingress arn balancer := by
  constructor
  · intro world ingress key request named recorded faces
    exact (World.exposes_of_recorded named recorded).2 faces
  constructor
  · intro world ingress key annotations named forbids
    exact forbids.run_reconcile named controller
  · intro start history last operated empty restricts
    exact (operated.accounts empty restricts).created

end Controller

/-!
## A cloud with a restriction

Of two ingresses that ask to face the internet one is on the allow-list.
-/

namespace RestrictedCloud

/-- Schemes are restricted, and one ingress is on the allow-list. -/
def configuration : Configuration :=
  ({ restrictScheme := true } : Configuration).allow IngressKey.defaultNamespace "shop"

/-- A controller under this configuration. -/
def controller : Controller := ⟨.ofConfiguration configuration, .direct⟩

/-- The ingress that is on the allow-list. -/
def listed : Ingress := ⟨none, some "shop"⟩

/-- The key that is on the allow-list. -/
def listedKey : IngressKey := ⟨IngressKey.defaultNamespace, "shop"⟩

/-- The ingress that is not on the allow-list. -/
def unlisted : Ingress := ⟨none, some "lobby"⟩

/-- The key that is not on the allow-list. -/
def unlistedKey : IngressKey := ⟨IngressKey.defaultNamespace, "lobby"⟩

/-- Annotations that ask to face the internet. -/
def annotations : IngressAnnotations :=
  { loadBalancer := { scheme := .internetFacing, subnets := ["subnet-1"] } }

/-- A world in which both ingresses have these annotations. -/
def world : World :=
  { World.start "eu-west-1" configuration with
    store :=
      ((Store.empty configuration).setAnnotations listedKey annotations).setAnnotations unlistedKey
        annotations }

theorem named : IngressKey.ofIngress? listed = some listedKey := rfl

theorem isFaultless : world.IsFaultless := ⟨rfl, rfl, rfl, rfl⟩

theorem isConsistent : world.cloud.tables.IsConsistent :=
  CloudTables.isConsistent_empty "eu-west-1"

theorem supports : world.Supports controller listedKey annotations ["subnet-1"] where
  cached := by decide
  resolved := by
    have sorted : List.mergeSort ["subnet-1"] = ["subnet-1"] := by simp
    exact congrArg Except.ok sorted
  securityGroups := ⟨[], rfl⟩
  allowed := by decide
  webAclExists := nofun

theorem forbids : world.Forbids unlistedKey annotations where
  restricts := rfl
  notListed := by decide
  cached := rfl
  asks := rfl

/-- The world after a cycle for the ingress that is on the allow-list. -/
def afterListed : World :=
  (world.run (controller.attempt (.reconcile listed))).2

/-- The ingress that is on the allow-list gets a load balancer that faces the internet. -/
theorem exists_stored :
    ∃ arn balancer,
      afterListed.cloud.tables.loadBalancers.lookup arn = some balancer ∧
        balancer.scheme = .internetFacing := by
  have runsAs := (isFaultless.undisturbed (controller.reconcile listed)).runsAs world.matches_calm
  rcases Controller.yields_reconcile_of_supports isConsistent named supports with
    ⟨status, after, yields⟩
  rcases Controller.yields_reconcile_iff.mp yields with ⟨key, sameNamed, converges⟩
  cases named.symm.trans sameNamed
  rcases Controller.isConverged_of_yields isConsistent converges with
    ⟨found, subnets, balancer, admits, -, converged, -⟩
  rcases supports.admits.unique admits with ⟨rfl, rfl⟩
  have tables : afterListed.cloud.tables = after.tables := (runsAs.matches_of_yields yields).tables
  rcases CloudTables.lookup_of_findByName converged.found with ⟨⟨arn, stored⟩, -⟩
  exact ⟨arn, balancer, tables ▸ stored, converged.realizes.scheme⟩

theorem history :
    controller.History World.SameRestrictions world [(world, .reconcile listed)] afterListed :=
  .operate .start (.reconcile listed)

end RestrictedCloud

/-- The ingress that is not on the allow-list violates the policy, and the cloud stays empty; what
faces the internet after a cycle for the other one was created in that cycle, as it may be. -/
theorem Controller.internetFacing_policy_restrictedCloud :
    ((RestrictedCloud.world.run (RestrictedCloud.controller.reconcile RestrictedCloud.unlisted)).1 =
        .error (DesiredState.notAllowed RestrictedCloud.unlistedKey) ∧
      RestrictedCloud.world.Unchanged
        (RestrictedCloud.world.run
          (RestrictedCloud.controller.reconcile RestrictedCloud.unlisted)).2) ∧
      (∃ arn balancer,
        RestrictedCloud.controller.CreatedListed RestrictedCloud.world RestrictedCloud.listed arn
            balancer ∧
          balancer.scheme = .internetFacing) ∧
      RestrictedCloud.configuration.Exposes RestrictedCloud.listedKey := by
  have policy := internetFacing_policy RestrictedCloud.controller
  rcases RestrictedCloud.exists_stored with ⟨arn, balancer, stored, faces⟩
  rcases policy.2.2 _ _ _ RestrictedCloud.history rfl rfl arn balancer stored faces with
    ⟨moment, ingress, member, created⟩
  cases List.mem_singleton.mp member
  constructor
  · exact policy.2.1 _ _ _ _ rfl RestrictedCloud.forbids
  constructor
  · exact ⟨arn, balancer, created, faces⟩
  · rcases created.creates with ⟨request, creates, -, sameScheme⟩
    exact policy.1 _ _ _ request RestrictedCloud.named creates.recorded (sameScheme.symm.trans faces)

end IngressConvergence
