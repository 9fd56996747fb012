import IngressConvergence.Proofs.World.Unchanged

/-!
# How cycles begin

Before a cycle looks for its load balancer it asks for the annotations, resolves the subnets and checks
the policy.  Each of these can stop it, and none of them changes anything; `World.StopsWith` lists the
errors that it then ends with.  If nothing stops it, it goes on from a desired state that is allowed.
Which of the two it is, is `World.run_converge_cases`.
-/

namespace IngressConvergence

/-- The part of a cycle that follows once its desired state is allowed. -/
def Controller.provide
    (controller : Controller)
    (key : IngressKey)
    (ingress : Ingress)
    (annotations : LoadBalancerAnnotations)
    (desired : DesiredState) : Attempt ControllerError LoadBalancerStatus := do
  let balancer ← Convergence.ensureInstance desired
  controller.convergeDependents key ingress annotations balancer
  return ⟨balancer.arn, balancer.dnsName⟩

namespace World

variable {world : World} {controller : Controller} {ingress : Ingress} {key : IngressKey}
  {annotations : IngressAnnotations} {desired : DesiredState}

/-! ## The start -/

/-- The world in which a cycle begins, once its start is reported. -/
def started
    (world : World)
    (key : IngressKey) : World :=
  { world with log := world.log ++ [.cycleStarted key] }

theorem unchanged_started
    (world : World)
    (key : IngressKey) :
    Unchanged world (world.started key) := ⟨rfl, rfl, rfl⟩

/-- A cycle for an ingress with a name comes to what follows its start. -/
theorem run_reconcile_of_ofIngress?
    (named : IngressKey.ofIngress? ingress = some key)
    (controller : Controller) :
    (world.run (controller.reconcile ingress)).1 =
        ((world.started key).run (controller.converge key ingress)).1 ∧
      Unchanged ((world.started key).run (controller.converge key ingress)).2
        (world.run (controller.reconcile ingress)).2 := by
  have starts :
      world.run (Attempt.report (.cycleStarted key) : Attempt ControllerError Unit) =
        (.ok (), world.started key) :=
    rfl
  rw [Controller.reconcile, named]
  dsimp only
  rw [run_bind_of_ok starts]
  exact run_reporting _ _ _

/-! ## What can stop a cycle -/

theorem cached_of_annotationsOf
    (given : world.store.annotationsOf world.context world.timeline key = .ok annotations) :
    world.store.annotations key = some annotations := by
  rw [Store.annotationsOf] at given
  split at given
  · cases given
  · split at given
    next found cached =>
      cases given
      exact cached
    next => cases given

/-- A desired state is not built, because the subnets are not resolved, or it is built from those that
are. -/
theorem run_build_cases
    (world : World)
    (policy : NamingPolicy)
    (key : IngressKey)
    (annotations : IngressAnnotations) :
    (∃ error after,
      (world.run (DesiredState.resolveSubnets annotations.loadBalancer.subnets
        annotations.loadBalancer.scheme)).1 = .error error ∧
        world.run (DesiredState.build policy key annotations) =
          (.error (.configBuild key.text error), after)) ∨
      ∃ subnets after,
        (world.run (DesiredState.resolveSubnets annotations.loadBalancer.subnets
          annotations.loadBalancer.scheme)).1 = .ok subnets ∧
          world.run (DesiredState.build policy key annotations) =
            (.ok (.ofSubnets policy key annotations subnets), after) := by
  have resolves := world.run_mapFailure
    (DesiredState.resolveSubnets annotations.loadBalancer.subnets annotations.loadBalancer.scheme)
    (ControllerError.configBuild key.text)
  rw [DesiredState.build]
  cases resolved :
      (world.run (DesiredState.resolveSubnets annotations.loadBalancer.subnets
        annotations.loadBalancer.scheme)).1 with
  | error error =>
      rw [resolved] at resolves
      exact .inl ⟨error, _, rfl, run_bind_of_error resolves⟩
  | ok subnets =>
      rw [resolved] at resolves
      exact .inr ⟨subnets, _, rfl, run_bind_of_ok resolves⟩

/-- A desired state that is not allowed is refused, and nothing is done about it. -/
theorem run_requireAllowed
    (refused : DesiredState.isAllowed world.store.configuration key desired = false) :
    world.run (Controller.requireAllowed key desired) =
      (.error (DesiredState.notAllowed key), world) := by
  show (DesiredState.validate world.store.configuration key desired, world) = _
  rw [DesiredState.validate, refused]
  rfl

theorem run_requireAllowed_of_isAllowed
    (allowed : DesiredState.isAllowed world.store.configuration key desired = true) :
    world.run (Controller.requireAllowed key desired) = (.ok (), world) := by
  show (DesiredState.validate world.store.configuration key desired, world) = _
  rw [DesiredState.validate, if_pos allowed]

/-- What stops a cycle before it looks for its load balancer, with the error that it ends with. -/
inductive StopsWith
    (world : World)
    (controller : Controller)
    (key : IngressKey) : ControllerError → Prop where
  | notGiven
      {cause : Cause}
      (given : world.store.annotationsOf world.context world.timeline key = .error cause) :
      StopsWith world controller key (.store key.text cause)
  | notResolved
      {annotations : IngressAnnotations}
      {error : ControllerError}
      (given : world.store.annotationsOf world.context world.timeline key = .ok annotations)
      (resolved :
        (world.run (DesiredState.resolveSubnets annotations.loadBalancer.subnets
          annotations.loadBalancer.scheme)).1 = .error error) :
      StopsWith world controller key (.configBuild key.text error)
  | notAllowed
      {annotations : IngressAnnotations}
      {subnets : List String}
      (given : world.store.annotationsOf world.context world.timeline key = .ok annotations)
      (resolved :
        (world.run (DesiredState.resolveSubnets annotations.loadBalancer.subnets
          annotations.loadBalancer.scheme)).1 = .ok subnets)
      (refused :
        DesiredState.isAllowed world.store.configuration key
          (.ofSubnets controller.naming key annotations subnets) = false) :
      StopsWith world controller key (DesiredState.notAllowed key)

/-! ## What a cycle goes on from -/

/-- A cycle begins with annotations whose subnets are resolved and whose desired state is allowed, and
has prepared a world in which nothing has changed. -/
structure Begins
    (world : World)
    (controller : Controller)
    (key : IngressKey)
    (annotations : IngressAnnotations)
    (subnets : List String)
    (prepared : World) : Prop where
  cached : world.store.annotations key = some annotations
  resolved :
    (world.run (DesiredState.resolveSubnets annotations.loadBalancer.subnets
      annotations.loadBalancer.scheme)).1 = .ok subnets
  allowed :
    DesiredState.isAllowed world.store.configuration key
      (.ofSubnets controller.naming key annotations subnets) = true
  unchanged : Unchanged world prepared

/-- A cycle is stopped before it looks for its load balancer and has changed nothing, or it goes on from
a desired state that is allowed. -/
theorem run_converge_cases
    (world : World)
    (controller : Controller)
    (key : IngressKey)
    (ingress : Ingress) :
    (∃ error, world.StopsWith controller key error ∧
        (world.run (controller.converge key ingress)).1 = .error error ∧
        Unchanged world (world.run (controller.converge key ingress)).2) ∨
      ∃ annotations subnets prepared,
        world.Begins controller key annotations subnets prepared ∧
          world.run (controller.converge key ingress) =
            prepared.run (controller.provide key ingress annotations.loadBalancer
              (.ofSubnets controller.naming key annotations subnets)) := by
  have asked :
      world.run (Attempt.annotationsOf key (.store key.text)) =
        ((world.store.annotationsOf world.context world.timeline key).mapError
          (ControllerError.store key.text), world) :=
    rfl
  rw [Controller.converge]
  cases given : world.store.annotationsOf world.context world.timeline key with
  | error cause =>
      rw [given] at asked
      rw [run_bind_of_error asked]
      exact .inl ⟨_, .notGiven given, rfl, .refl world⟩
  | ok annotations =>
      rw [given] at asked
      rw [run_bind_of_ok asked]
      have leaves := (DesiredState.asksOnly_build controller.naming key annotations).unchanged world
      have sameStore := world.store_run (DesiredState.build controller.naming key annotations)
      rcases world.run_build_cases controller.naming key annotations with
        ⟨error, after, resolved, ran⟩ | ⟨subnets, prepared, resolved, ran⟩
      · rw [ran] at leaves
        rw [run_bind_of_error ran]
        exact .inl ⟨_, .notResolved given resolved, rfl, leaves⟩
      rw [ran] at leaves sameStore
      rw [run_bind_of_ok ran]
      cases allowed :
          DesiredState.isAllowed world.store.configuration key
            (.ofSubnets controller.naming key annotations subnets) with
      | false =>
          have stops := StopsWith.notAllowed given resolved allowed
          rw [← sameStore] at allowed
          rw [run_bind_of_error (run_requireAllowed allowed)]
          exact .inl ⟨_, stops, rfl, leaves⟩
      | true =>
          have begins : world.Begins controller key annotations subnets prepared :=
            ⟨cached_of_annotationsOf given, resolved, allowed, leaves⟩
          rw [← sameStore] at allowed
          rw [run_bind_of_ok (run_requireAllowed_of_isAllowed allowed)]
          exact .inr ⟨annotations, subnets, prepared, begins, rfl⟩

end World

end IngressConvergence
