import IngressConvergence.Simulation.World

/-!
# When a context is live

A context is live at a time at which its token is not cancelled and its deadline has not come.
Exactly then an operation may start.  Time only moves on and cancelled tokens stay cancelled, so a
context that has ended has ended for good: `World.Elapsed.isLive` carries liveness backwards.
-/

namespace IngressConvergence

/-! ## Contexts -/

namespace CallContext

/-- The token of a context is not cancelled and its deadline lies ahead. -/
structure IsLive
    (context : CallContext)
    (timeline : Timeline) : Prop where
  notCancelled : context.isCancelled timeline = false
  beforeDeadline :
    ∀ deadline, context.deadline = some deadline → timeline.now < deadline

variable {context : CallContext} {timeline : Timeline} {operation : String}

/-- What a context gives as a failure counts as cancellation. -/
theorem isCancellation_of_failureAt
    {cancellation : Option Nat}
    {instant : Nat}
    {error : CloudError}
    (stops : context.failureAt timeline operation cancellation instant = some error) :
    error.isCancellation = true := by
  rw [failureAt] at stops
  split at stops
  · cases stops
    rfl
  · split at stops
    · cases stops
      rfl
    · cases stops

/-- A context gives no failure now exactly if it is live. -/
theorem failureAt_eq_none_iff
    (operation : String) :
    context.failureAt timeline operation none timeline.now = none ↔
      context.IsLive timeline := by
  constructor
  · intro goesOn
    simp only [failureAt, Option.any_none, Bool.or_false] at goesOn
    split at goesOn
    · cases goesOn
    next notCancelled =>
      split at goesOn
      · cases goesOn
      next notReached =>
        refine ⟨by simpa using notCancelled, ?_⟩
        intro deadline given
        simpa [given] using notReached
  · intro live
    have notReached : context.deadline.any (· ≤ timeline.now) = false := by
      cases given : context.deadline with
      | none => rfl
      | some deadline => simpa using live.beforeDeadline deadline given
    simp [failureAt, live.notCancelled, notReached]

theorem check_eq_ok_iff :
    context.check timeline operation = .ok () ↔ context.IsLive timeline := by
  rw [← failureAt_eq_none_iff operation, check]
  cases context.failureAt timeline operation none timeline.now with
  | none => simp
  | some error => simp

/-- Under a context that has ended an operation is refused as cancelled. -/
theorem check_eq_error_of_not_isLive
    (operation : String)
    (dead : ¬ context.IsLive timeline) :
    ∃ error, context.check timeline operation = .error error ∧
      error.isCancellation = true := by
  cases stops : context.failureAt timeline operation none timeline.now with
  | none => exact absurd ((failureAt_eq_none_iff _).mp stops) dead
  | some error =>
      refine ⟨error, ?_, isCancellation_of_failureAt stops⟩
      rw [check, stops]

/-- A race under a context that is not cancelled is not decided before it has begun. -/
theorem now_le_decisionInstant
    (context : CallContext)
    (timeline : Timeline)
    (duration : Nat) :
    timeline.now ≤ context.decisionInstant timeline duration none := by
  rw [decisionInstant]
  cases context.deadline with
  | none => exact Nat.le_add_right _ _
  | some deadline =>
      exact Nat.le_min.mpr ⟨Nat.le_add_right _ _, Nat.le_max_left _ _⟩

/-- Letting time pass up to an instant is asking about that instant. -/
theorem failureAt_advanceTo
    {cancellation : Option Nat}
    {instant : Nat}
    (ahead : timeline.now ≤ instant) :
    context.failureAt timeline operation cancellation instant =
      context.failureAt (timeline.advanceTo instant) operation cancellation
        (timeline.advanceTo instant).now := by
  have reached : (timeline.advanceTo instant).now = instant := Nat.max_eq_right ahead
  rw [reached]
  rfl

/-- A call that answers at once is over while the context is live, or it is over because the context
has ended; in both cases this is so when time has moved on to the instant of the answer. -/
theorem run_ok_cases
    (context : CallContext)
    (timeline : Timeline)
    (operation : String)
    (duration : Nat) :
    ((context.run timeline operation duration (.ok ()) none).result = .ok () ∧
        context.IsLive (timeline.advanceTo
          (context.run timeline operation duration (.ok ()) none).instant)) ∨
      ∃ error,
        (context.run timeline operation duration (.ok ()) none).result = .error error ∧
          error.isCancellation = true ∧
          ¬ context.IsLive (timeline.advanceTo
            (context.run timeline operation duration (.ok ()) none).instant) := by
  rw [run]
  cases begins : context.failureAt timeline operation none timeline.now with
  | some error =>
      right
      refine ⟨error, rfl, isCancellation_of_failureAt begins, ?_⟩
      intro live
      rw [failureAt_advanceTo (Nat.le_refl _), (failureAt_eq_none_iff _).mpr live] at begins
      cases begins
  | none =>
      by_cases noWait : duration = 0
      · left
        rw [failureAt_advanceTo (Nat.le_refl _)] at begins
        simp only [if_pos noWait]
        exact ⟨trivial, (failureAt_eq_none_iff _).mp begins⟩
      · have ahead := now_le_decisionInstant context timeline duration
        simp only [if_neg noWait]
        cases ends : context.failureAt timeline operation none
            (context.decisionInstant timeline duration none) with
        | some error =>
            right
            refine ⟨error, rfl, isCancellation_of_failureAt ends, ?_⟩
            intro live
            rw [failureAt_advanceTo ahead, (failureAt_eq_none_iff _).mpr live] at ends
            cases ends
        | none =>
            left
            rw [failureAt_advanceTo ahead] at ends
            exact ⟨rfl, (failureAt_eq_none_iff _).mp ends⟩

end CallContext

/-! ## Worlds -/

namespace World

/-- The context of the world is live. -/
def IsLive (world : World) : Prop :=
  world.context.IsLive world.timeline

/-- Time moved on from one world to another, with the same context, store and script. -/
structure Elapsed
    (world later : World) : Prop where
  context : later.context = world.context
  store : later.store = world.store
  targetGroups : later.targetGroups = world.targetGroups
  now_le : world.timeline.now ≤ later.timeline.now
  cancelled : ∀ token ∈ world.timeline.cancelled, token ∈ later.timeline.cancelled

/-- Nothing but time and hooks moved on from one world to another. -/
structure Later
    (world later : World) : Prop extends Elapsed world later where
  cloud : later.cloud = world.cloud
  journal : later.journal = world.journal
  log : later.log = world.log

section Order

variable {world middle later : World}

theorem Elapsed.refl (world : World) : Elapsed world world where
  context := rfl
  store := rfl
  targetGroups := rfl
  now_le := Nat.le_refl _
  cancelled := fun _ member => member

theorem Elapsed.trans
    (first : Elapsed world middle)
    (second : Elapsed middle later) :
    Elapsed world later where
  context := second.context.trans first.context
  store := second.store.trans first.store
  targetGroups := second.targetGroups.trans first.targetGroups
  now_le := Nat.le_trans first.now_le second.now_le
  cancelled := fun token member => second.cancelled token (first.cancelled token member)

/-- A context that is live later was live before. -/
theorem Elapsed.isLive
    (elapsed : Elapsed world later)
    (live : later.IsLive) :
    world.IsLive where
  notCancelled := by
    have still := live.notCancelled
    rw [elapsed.context] at still
    simp only [CallContext.isCancelled, Timeline.isCancelled, List.any_eq_false] at still ⊢
    intro token member
    exact still token (elapsed.cancelled token member)
  beforeDeadline := by
    intro deadline given
    refine Nat.lt_of_le_of_lt elapsed.now_le (live.beforeDeadline deadline ?_)
    rw [elapsed.context, given]

theorem Later.refl (world : World) : Later world world where
  toElapsed := .refl world
  cloud := rfl
  journal := rfl
  log := rfl

theorem Later.trans
    (first : Later world middle)
    (second : Later middle later) :
    Later world later where
  toElapsed := first.toElapsed.trans second.toElapsed
  cloud := second.cloud.trans first.cloud
  journal := second.journal.trans first.journal
  log := second.log.trans first.log

end Order

/-! ## What only moves time and hooks -/

variable (world : World)

theorem later_takeHook
    (point : String) :
    Later world (world.takeHook point).2 :=
  { Later.refl world with }

theorem later_cancel : Later world world.cancel :=
  { Later.refl world with
    cancelled := fun _ member => List.mem_cons_of_mem _ member }

theorem later_cancelIf
    (asked : Bool) :
    Later world (world.cancelIf asked) := by
  cases asked with
  | false => exact .refl world
  | true => exact world.later_cancel

theorem later_wait
    (operation : String)
    (duration : Nat) :
    Later world (world.wait operation duration).2 :=
  { Later.refl world with
    now_le := Nat.le_max_left _ _ }

/-- A wait ends while the context is live, or it ends because the context does. -/
theorem wait_cases
    (operation : String)
    (duration : Nat) :
    (∃ after, world.wait operation duration = (.ok (), after) ∧
        Later world after ∧ after.IsLive) ∨
      ∃ error after, world.wait operation duration = (.error error, after) ∧
        Later world after ∧ ¬ after.IsLive ∧ error.isCancellation = true := by
  have moved := world.later_wait operation duration
  have race := CallContext.run_ok_cases world.context world.timeline operation duration
  rcases race with ⟨ended, live⟩ | ⟨error, stopped, isCancellation, dead⟩
  · exact .inl ⟨_, Prod.ext ended rfl, moved, live⟩
  · exact .inr ⟨error, _, Prod.ext stopped rfl, moved, dead, isCancellation⟩

end World

end IngressConvergence
