import IngressConvergence.Proofs.World.Liveness

/-!
# Contexts that are derived from others

A context is made afresh or derived from another one: it is cloned, given a deadline or a timeout, or
made for the same token or for a child of it.  `ContextSession` holds the time and all contexts that were
made, and `ContextSession.Derives` says by which derivations one of them came from another in the course
of a run.  The main statement is `ContextSession.onlyTightens`: clones and contexts that are given a
deadline end no later than the context they come from, what has ended has ended for good, and the
cancellation of a child does not reach its parent.
-/

namespace IngressConvergence

/-! ## Derivations -/

/-- How a context is derived from another. -/
inductive Derivation where
  | clone
  /-- A context for the same token, without a deadline. -/
  | sameToken
  /-- A context for a child of the token, without a deadline; the child has a number of its own. -/
  | child (number : Nat)
  | deadline (instant : Nat)
deriving DecidableEq, Repr

namespace Derivation

/-- The context that a derivation makes of another. -/
def apply : Derivation → CallContext → CallContext
  | .clone, context => context
  | .sameToken, context => .ofToken context.token
  | .child number, context => .ofToken ⟨number :: context.token.lineage⟩
  | .deadline instant, context => context.withDeadline instant

/-- Derive one context from another step by step. -/
def applyAll (derivations : List Derivation) (context : CallContext) : CallContext :=
  derivations.foldl (fun reached derivation => derivation.apply reached) context

/-- Whether a derivation keeps the token and a deadline that there is. -/
def isTightening : Derivation → Bool
  | .clone => true
  | .sameToken => false
  | .child _ => false
  | .deadline _ => true

/-- The instant that a derivation sets as a deadline. -/
def instant? : Derivation → Option Nat
  | .deadline instant => some instant
  | _ => none

variable {derivations : List Derivation}

/-- A chain of derivations that tighten keeps the token, and leads to the earliest of the deadlines. -/
theorem applyAll_of_isTightening
    (tightening : ∀ derivation ∈ derivations, derivation.isTightening = true)
    (context : CallContext) :
    (applyAll derivations context).token = context.token ∧
      (applyAll derivations context).deadline =
        (context.deadline.toList ++ derivations.filterMap instant?).min? := by
  induction derivations generalizing context with
  | nil =>
      refine ⟨rfl, ?_⟩
      show context.deadline = _
      cases context.deadline with
      | none => rfl
      | some deadline => rfl
  | cons derivation rest ih =>
      have restTightens : ∀ other ∈ rest, other.isTightening = true :=
        fun other member => tightening other (List.mem_cons_of_mem _ member)
      cases derivation with
      | clone => exact ih restTightens context
      | sameToken => cases tightening _ List.mem_cons_self
      | child number => cases tightening _ List.mem_cons_self
      | deadline instant =>
          rcases ih restTightens (context.withDeadline instant) with ⟨sameToken, earliest⟩
          refine ⟨sameToken, earliest.trans ?_⟩
          rw [CallContext.withDeadline]
          cases context.deadline with
          | none => rfl
          | some deadline => rfl

/-- The earliest of some instants does not depend on their order. -/
theorem min?_eq_of_perm
    {instants others : List Nat}
    (anyOrder : instants.Perm others) :
    instants.min? = others.min? := by
  cases earliest : others.min? with
  | none =>
      rw [List.min?_eq_none_iff] at earliest ⊢
      rw [earliest] at anyOrder
      exact anyOrder.eq_nil
  | some instant =>
      rcases List.min?_eq_some_iff.mp earliest with ⟨member, first⟩
      refine List.min?_eq_some_iff.mpr ⟨anyOrder.mem_iff.mpr member, fun other memberToo => ?_⟩
      exact first other (anyOrder.mem_iff.mp memberToo)

/-- A chain of derivations leads to a token that descends from the one at its start, by as many
generations as there are children in the chain. -/
theorem exists_lineage_applyAll
    (derivations : List Derivation)
    (context : CallContext) :
    ∃ numbers : List Nat,
      (applyAll derivations context).token.lineage = numbers ++ context.token.lineage ∧
        ∀ number, .child number ∈ derivations → numbers ≠ [] := by
  induction derivations generalizing context with
  | nil => exact ⟨[], rfl, fun number member => nomatch member⟩
  | cons derivation rest ih =>
      rcases ih (derivation.apply context) with ⟨numbers, lineage, generations⟩
      cases derivation with
      | child number =>
          refine ⟨numbers ++ [number], ?_, fun other member => by simp⟩
          rw [List.append_assoc]
          exact lineage
      | _ =>
          refine ⟨numbers, lineage, fun number member => generations number ?_⟩
          simpa using member

end Derivation

/-! ## Checks -/

namespace Token

variable {token ancestor : Token} {numbers : List Nat}

theorem descendsFrom_of_lineage
    (lineage : token.lineage = numbers ++ ancestor.lineage) :
    token.descendsFrom ancestor = true :=
  List.isSuffixOf_iff_suffix.mpr ⟨numbers, lineage.symm⟩

/-- An ancestor does not descend from its own descendants. -/
theorem not_descendsFrom_of_lineage
    (lineage : token.lineage = numbers ++ ancestor.lineage)
    (generations : numbers ≠ []) :
    ancestor.descendsFrom token = false := by
  rw [← Bool.not_eq_true]
  intro descends
  have shorter := (List.isSuffixOf_iff_suffix.mp descends).length_le
  have some := List.length_pos_iff.mpr generations
  rw [lineage, List.length_append] at shorter
  omega

end Token

/-- Time moves on from one timeline to another, and what was cancelled stays so. -/
structure Timeline.IsBefore (timeline later : Timeline) : Prop where
  now_le : timeline.now ≤ later.now
  cancelled : ∀ token ∈ timeline.cancelled, token ∈ later.cancelled

namespace Timeline

variable {timeline middle later : Timeline}

theorem IsBefore.refl (timeline : Timeline) : timeline.IsBefore timeline where
  now_le := Nat.le_refl _
  cancelled := fun _ member => member

theorem IsBefore.trans
    (first : timeline.IsBefore middle)
    (second : middle.IsBefore later) :
    timeline.IsBefore later where
  now_le := Nat.le_trans first.now_le second.now_le
  cancelled := fun token member => second.cancelled token (first.cancelled token member)

theorem IsBefore.isCancelled
    {token : Token}
    (before : timeline.IsBefore later)
    (cancelled : timeline.isCancelled token = true) :
    later.isCancelled token = true := by
  rcases List.any_eq_true.mp cancelled with ⟨ancestor, member, descends⟩
  exact List.any_eq_true.mpr ⟨ancestor, before.cancelled ancestor member, descends⟩

/-- A cancellation reaches the token and its descendants, and nothing else. -/
theorem isCancelled_cancel
    (timeline : Timeline)
    (token other : Token) :
    (timeline.cancel token).isCancelled other =
      (other.descendsFrom token || timeline.isCancelled other) := rfl

end Timeline

namespace CallContext

variable {context tighter : CallContext} {timeline later : Timeline} {operation : String}

/-- The token is asked first, and then the deadline. -/
theorem check_eq
    (context : CallContext)
    (timeline : Timeline)
    (operation : String) :
    context.check timeline operation =
      if context.isCancelled timeline then .error (.cancelled operation)
      else if context.deadline.any (· ≤ timeline.now) then .error (.deadlineExceeded operation)
      else .ok () := by
  simp only [check, failureAt, Option.any_none, Bool.or_false]
  cases context.isCancelled timeline with
  | true => rfl
  | false =>
      cases context.deadline.any (· ≤ timeline.now) with
      | true => rfl
      | false => rfl

theorem check_eq_cancelled_iff :
    context.check timeline operation = .error (.cancelled operation) ↔
      context.isCancelled timeline = true := by
  rw [check_eq]
  cases context.isCancelled timeline with
  | true => simp
  | false =>
      cases context.deadline.any (· ≤ timeline.now) with
      | true => simp
      | false => simp

/-- Under a context that has ended an operation is refused as cancelled, or else as late. -/
theorem check_of_not_isLive
    (operation : String)
    (dead : ¬ context.IsLive timeline) :
    context.check timeline operation =
      .error (if context.isCancelled timeline then .cancelled operation
        else .deadlineExceeded operation) := by
  have refused : context.check timeline operation ≠ .ok () := fun passes =>
    dead (check_eq_ok_iff.mp passes)
  rw [check_eq] at refused ⊢
  cases cancelled : context.isCancelled timeline with
  | true => rfl
  | false =>
      cases late : context.deadline.any (· ≤ timeline.now) with
      | true => rfl
      | false => simp [cancelled, late] at refused

/-- A check that fails goes on failing. -/
theorem exists_check_of_isBefore
    {error : CloudError}
    (before : timeline.IsBefore later)
    (fails : context.check timeline operation = .error error)
    (other : String) :
    ∃ reason, context.check later other = .error reason := by
  rw [check_eq] at fails ⊢
  split at fails
  next cancelled =>
    exact ⟨.cancelled other, if_pos (before.isCancelled cancelled)⟩
  next =>
    split at fails
    next late =>
      rcases (Option.any_eq_true _ _).mp late with ⟨deadline, given, reached⟩
      have stillLate : context.deadline.any (· ≤ later.now) = true := by
        have reached := of_decide_eq_true reached
        simpa [given] using Nat.le_trans reached before.now_le
      cases context.isCancelled later with
      | true => exact ⟨_, rfl⟩
      | false => exact ⟨_, by rw [if_neg Bool.false_ne_true, if_pos stillLate]⟩
    next => cases fails

/-- Where a check fails, it fails alike for a context of the same token that ends no later. -/
theorem check_of_tighter
    {error : CloudError}
    (sameToken : tighter.token = context.token)
    (noLater :
      ∀ deadline, context.deadline = some deadline →
        ∃ earlier ≤ deadline, tighter.deadline = some earlier)
    (fails : context.check timeline operation = .error error) :
    tighter.check timeline operation = .error error := by
  have asCancelled : tighter.isCancelled timeline = context.isCancelled timeline := by
    rw [isCancelled, isCancelled, sameToken]
  rw [check_eq] at fails ⊢
  rw [asCancelled]
  split at fails
  next cancelled => rwa [if_pos cancelled]
  next notCancelled =>
    rw [if_neg notCancelled]
    split at fails
    next late =>
      rcases (Option.any_eq_true _ _).mp late with ⟨deadline, given, reached⟩
      rcases noLater deadline given with ⟨earlier, ahead, givenToo⟩
      have reached := of_decide_eq_true reached
      have lateToo : tighter.deadline.any (· ≤ timeline.now) = true := by
        simpa [givenToo] using Nat.le_trans ahead reached
      rwa [if_pos lateToo]
    next => cases fails

end CallContext

/-- A chain of derivations that tighten ends no later than it starts. -/
theorem Derivation.exists_deadline_applyAll
    {derivations : List Derivation}
    {context : CallContext}
    {deadline : Nat}
    (tightening : ∀ derivation ∈ derivations, derivation.isTightening = true)
    (given : context.deadline = some deadline) :
    ∃ earlier ≤ deadline, (applyAll derivations context).deadline = some earlier := by
  rw [(applyAll_of_isTightening tightening context).2, given]
  cases earliest : ([deadline] ++ derivations.filterMap instant?).min? with
  | none => simp at earliest
  | some earlier =>
      have first := (List.min?_eq_some_iff.mp earliest).2
      exact ⟨earlier, first deadline (by simp), earliest⟩

/-! ## Sessions -/

/-- What can be done with contexts; a context is known by its place in the order in which they were
made. -/
inductive ContextStep where
  | fresh
  | clone (source : Nat)
  | withToken (source : Nat)
  | child (parent : Nat)
  | withDeadline (source instant : Nat)
  | withTimeout (source duration : Nat)
  | cancel (target : Nat)
  | advance (duration : Nat)
deriving DecidableEq, Repr

/-- The derivation that a step performs at a time, and the context from which it derives. -/
def ContextStep.derivation? (timeline : Timeline) : ContextStep → Option (Nat × Derivation)
  | .clone source => some (source, .clone)
  | .withToken source => some (source, .sameToken)
  | .child parent => some (parent, .child timeline.made)
  | .withDeadline source instant => some (source, .deadline instant)
  | .withTimeout source duration => some (source, .deadline (timeline.now + duration))
  | .fresh => none
  | .cancel _ => none
  | .advance _ => none

/-- The time, and the contexts that were made until then. -/
structure ContextSession where
  timeline : Timeline
  contexts : List CallContext
deriving DecidableEq, Repr

namespace ContextSession

/-- Put a new context behind those of the session. -/
def make (session : ContextSession) (made : CallContext × Timeline) : ContextSession :=
  ⟨made.2, session.contexts ++ [made.1]⟩

/-- Do something with a context; nothing is done if there is none of that number. -/
def withContext (session : ContextSession) (number : Nat) (change : CallContext → ContextSession) :
    ContextSession :=
  match session.contexts[number]? with
  | some context => change context
  | none => session

/-- What a step does with the contexts and the time of a session. -/
def step (session : ContextSession) : ContextStep → ContextSession
  | .fresh => session.make (CallContext.fresh session.timeline)
  | .clone source =>
    session.withContext source fun context => session.make (context, session.timeline)
  | .withToken source =>
    session.withContext source fun context =>
      session.make (.ofToken context.token, session.timeline)
  | .child parent =>
    session.withContext parent fun context => session.make (context.child session.timeline)
  | .withDeadline source instant =>
    session.withContext source fun context =>
      session.make (context.withDeadline instant, session.timeline)
  | .withTimeout source duration =>
    session.withContext source fun context =>
      session.make (context.withTimeout session.timeline duration, session.timeline)
  | .cancel target =>
    session.withContext target fun context =>
      { session with timeline := session.timeline.cancel context.token }
  | .advance duration => { session with timeline := session.timeline.advance duration }

/-- Take steps one after the other. -/
def run (session : ContextSession) (steps : List ContextStep) : ContextSession :=
  steps.foldl step session

/-- Check a context, if there is one of that number. -/
def check? (session : ContextSession) (number : Nat) (operation : String) :
    Option (Except CloudError Unit) :=
  session.contexts[number]?.map fun context => context.check session.timeline operation

/-- In the course of a run one context comes from another by a chain of derivations. -/
inductive Derives
    (start : ContextSession)
    (source : Nat) :
    List ContextStep → List Derivation → Nat → Prop where
  | itself
      {steps : List ContextStep}
      (known : source < (start.run steps).contexts.length) :
      Derives start source steps [] source
  | meanwhile
      {steps : List ContextStep}
      {derivations : List Derivation}
      {derived : Nat}
      (earlier : Derives start source steps derivations derived)
      (step : ContextStep) :
      Derives start source (steps ++ [step]) derivations derived
  /-- The context that a step makes is the last one. -/
  | derive
      {steps : List ContextStep}
      {derivations : List Derivation}
      {middle : Nat}
      {derivation : Derivation}
      {step : ContextStep}
      (earlier : Derives start source steps derivations middle)
      (performs : step.derivation? (start.run steps).timeline = some (middle, derivation)) :
      Derives start source (steps ++ [step]) (derivations ++ [derivation])
        (start.run steps).contexts.length

variable {session start : ContextSession} {steps : List ContextStep}

theorem run_append
    (session : ContextSession)
    (steps more : List ContextStep) :
    session.run (steps ++ more) = (session.run steps).run more :=
  List.foldl_append

/-! ## What a step does -/

/-- Contexts are only added. -/
theorem exists_contexts_step
    (session : ContextSession)
    (step : ContextStep) :
    ∃ added, (session.step step).contexts = session.contexts ++ added := by
  have kept : session.contexts = session.contexts ++ [] := (List.append_nil _).symm
  cases step with
  | fresh => exact ⟨_, rfl⟩
  | advance duration => exact ⟨[], kept⟩
  | _ =>
      rw [ContextSession.step, withContext]
      split
      · first | exact ⟨_, rfl⟩ | exact ⟨[], kept⟩
      · exact ⟨[], kept⟩

/-- A step that derives a context makes just that one. -/
theorem contexts_step_of_derivation?
    {step : ContextStep}
    {source : Nat}
    {derivation : Derivation}
    {context : CallContext}
    (performs : step.derivation? session.timeline = some (source, derivation))
    (known : session.contexts[source]? = some context) :
    (session.step step).contexts = session.contexts ++ [derivation.apply context] := by
  cases step with
  | fresh => cases performs
  | cancel target => cases performs
  | advance duration => cases performs
  | _ =>
      cases performs
      simp only [ContextSession.step, withContext, known]
      rfl

/-- No step turns back the time or undoes a cancellation. -/
theorem timeline_step
    (session : ContextSession)
    (step : ContextStep) :
    session.timeline.IsBefore (session.step step).timeline := by
  have same := Timeline.IsBefore.refl session.timeline
  cases step with
  | fresh => exact ⟨Nat.le_refl _, fun _ member => member⟩
  | advance duration => exact ⟨Nat.le_add_right _ _, fun _ member => member⟩
  | cancel target =>
      rw [ContextSession.step, withContext]
      split
      · exact ⟨Nat.le_refl _, fun _ member => List.mem_cons_of_mem _ member⟩
      · exact same
  | child parent =>
      rw [ContextSession.step, withContext]
      split
      · exact ⟨Nat.le_refl _, fun _ member => member⟩
      · exact same
  | _ =>
      rw [ContextSession.step, withContext]
      split
      · exact same
      · exact same

/-! ## What a run does -/

theorem timeline_run
    (session : ContextSession)
    (steps : List ContextStep) :
    session.timeline.IsBefore (session.run steps).timeline := by
  induction steps generalizing session with
  | nil => exact .refl _
  | cons step rest ih => exact (session.timeline_step step).trans (ih (session.step step))

/-- A context that was made stays as it is. -/
theorem getElem?_contexts_run
    {number : Nat}
    {context : CallContext}
    (known : session.contexts[number]? = some context)
    (steps : List ContextStep) :
    (session.run steps).contexts[number]? = some context := by
  induction steps generalizing session with
  | nil => exact known
  | cons step rest ih =>
      refine ih ?_
      rcases session.exists_contexts_step step with ⟨added, grown⟩
      rw [grown, List.getElem?_append_left (List.getElem?_eq_some_iff.mp known).1]
      exact known

theorem check?_eq_some_iff
    {number : Nat}
    {operation : String}
    {result : Except CloudError Unit} :
    session.check? number operation = some result ↔
      ∃ context, session.contexts[number]? = some context ∧
        context.check session.timeline operation = result :=
  Option.map_eq_some_iff

/-- A cancellation reaches the contexts whose tokens descend from the one that is cancelled, and no
others. -/
theorem check?_cancel
    {target number : Nat}
    {cancelled context : CallContext}
    {operation : String}
    (knownTarget : session.contexts[target]? = some cancelled)
    (known : session.contexts[number]? = some context) :
    (session.run [.cancel target]).check? number operation =
      if context.token.descendsFrom cancelled.token then some (.error (.cancelled operation))
      else session.check? number operation := by
  have reached : session.run [.cancel target] =
      { session with timeline := session.timeline.cancel cancelled.token } := by
    simp only [run, List.foldl, ContextSession.step, withContext, knownTarget]
  rw [reached, check?, check?, known, Option.map_some, Option.map_some, CallContext.check_eq,
    CallContext.check_eq, CallContext.isCancelled, Timeline.isCancelled_cancel]
  cases context.token.descendsFrom cancelled.token with
  | true => rfl
  | false => rfl

/-- What comes from a context by a chain of derivations is what the chain makes of it. -/
theorem Derives.exists_contexts
    {source derived : Nat}
    {derivations : List Derivation}
    (comes : start.Derives source steps derivations derived) :
    ∃ context, (start.run steps).contexts[source]? = some context ∧
      (start.run steps).contexts[derived]? = some (Derivation.applyAll derivations context) := by
  induction comes with
  | itself known => exact ⟨_, List.getElem?_eq_getElem known, List.getElem?_eq_getElem known⟩
  | meanwhile earlier step ih =>
      rcases ih with ⟨context, known, reached⟩
      rw [run_append]
      exact ⟨context, getElem?_contexts_run known [step], getElem?_contexts_run reached [step]⟩
  | @derive steps derivations middle derivation step earlier performs ih =>
      rcases ih with ⟨context, known, reached⟩
      rw [run_append]
      refine ⟨context, getElem?_contexts_run known [step], ?_⟩
      have made : ((start.run steps).run [step]).contexts =
          (start.run steps).contexts ++ [derivation.apply (Derivation.applyAll derivations context)] :=
        contexts_step_of_derivation? performs reached
      rw [made, List.getElem?_concat_length, Derivation.applyAll, Derivation.applyAll, List.foldl_append]
      rfl

/-! ## Contexts only tighten -/

/-- Whatever is done with contexts, one that is derived from another ends no later, what has ended has
ended for good, and a cancellation goes down and not up. -/
structure OnlyTightens (start : ContextSession) : Prop where
  /-- Clones and contexts that are given a deadline keep the token of the context at the start of the
  chain, and end at the earliest of all deadlines, in whichever order these were given. -/
  earliest :
    ∀ {source derived : Nat} {steps : List ContextStep} {derivations : List Derivation},
      start.Derives source steps derivations derived →
        (∀ derivation ∈ derivations, derivation.isTightening = true) →
          ∃ context reached, (start.run steps).contexts[source]? = some context ∧
            (start.run steps).contexts[derived]? = some reached ∧ reached.token = context.token ∧
              ∀ instants : List Nat,
                instants.Perm
                    (context.deadline.toList ++ derivations.filterMap Derivation.instant?) →
                  reached.deadline = instants.min?
  /-- Whenever a check fails, it fails alike for clones and for contexts that were given a deadline. -/
  failsAlike :
    ∀ {source derived : Nat} {steps : List ContextStep} {derivations : List Derivation}
      {operation : String} {error : CloudError},
      start.Derives source steps derivations derived →
        (∀ derivation ∈ derivations, derivation.isTightening = true) →
          (start.run steps).check? source operation = some (.error error) →
            (start.run steps).check? derived operation = some (.error error)
  /-- Once a check has failed it fails at all later times, for whichever operation. -/
  failsForGood :
    ∀ {number : Nat} {steps : List ContextStep} {operation : String} {error : CloudError},
      (start.run steps).check? number operation = some (.error error) →
        ∀ more other, ∃ reason,
          (start.run (steps ++ more)).check? number other = some (.error reason)
  /-- Once a check has failed it also fails for the clones and the contexts with a deadline that are
  derived from then on. -/
  failsBeforehand :
    ∀ {source derived : Nat} {steps more : List ContextStep} {derivations : List Derivation}
      {operation : String} {error : CloudError},
      (start.run steps).check? source operation = some (.error error) →
        start.Derives source (steps ++ more) derivations derived →
          (∀ derivation ∈ derivations, derivation.isTightening = true) →
            ∀ other, ∃ reason,
              (start.run (steps ++ more)).check? derived other = some (.error reason)
  /-- A context that was found cancelled is found cancelled at all later times. -/
  staysCancelled :
    ∀ {number : Nat} {steps : List ContextStep} {operation : String},
      (start.run steps).check? number operation = some (.error (.cancelled operation)) →
        ∀ more other,
          (start.run (steps ++ more)).check? number other = some (.error (.cancelled other))
  /-- The cancellation of a child, or of anything that comes from it, is nothing to the parent. -/
  sparesParent :
    ∀ {parent descendant number : Nat} {steps : List ContextStep} {derivations : List Derivation},
      start.Derives parent steps derivations descendant → .child number ∈ derivations →
        ∀ operation,
          (start.run (steps ++ [.cancel descendant])).check? parent operation =
            (start.run steps).check? parent operation
  /-- The cancellation of a context reaches all that was derived from it, with or without a deadline. -/
  reaches :
    ∀ {source derived : Nat} {steps : List ContextStep} {derivations : List Derivation},
      start.Derives source steps derivations derived →
        ∀ operation,
          (start.run (steps ++ [.cancel source])).check? derived operation =
            some (.error (.cancelled operation))

theorem exists_check?_run
    {number : Nat}
    {operation : String}
    {error : CloudError}
    (fails : session.check? number operation = some (.error error))
    (more : List ContextStep)
    (other : String) :
    ∃ reason, (session.run more).check? number other = some (.error reason) := by
  rcases check?_eq_some_iff.mp fails with ⟨context, known, checked⟩
  rcases CallContext.exists_check_of_isBefore (session.timeline_run more) checked other with
    ⟨reason, checkedToo⟩
  exact ⟨reason, check?_eq_some_iff.mpr ⟨context, getElem?_contexts_run known more, checkedToo⟩⟩

/-- A context fails as soon as one does from which it was derived, and with the same failure. -/
theorem Derives.check?_eq
    {source derived : Nat}
    {derivations : List Derivation}
    {operation : String}
    {error : CloudError}
    (comes : start.Derives source steps derivations derived)
    (tightening : ∀ derivation ∈ derivations, derivation.isTightening = true)
    (fails : (start.run steps).check? source operation = some (.error error)) :
    (start.run steps).check? derived operation = some (.error error) := by
  rcases comes.exists_contexts with ⟨context, known, reached⟩
  rcases check?_eq_some_iff.mp fails with ⟨same, knownToo, checked⟩
  cases known.symm.trans knownToo
  refine check?_eq_some_iff.mpr ⟨_, reached, ?_⟩
  exact CallContext.check_of_tighter (Derivation.applyAll_of_isTightening tightening context).1
    (fun deadline given => Derivation.exists_deadline_applyAll tightening given) checked

/-- Every session is one in which contexts only tighten. -/
theorem onlyTightens (start : ContextSession) : start.OnlyTightens := by
  constructor
  case earliest =>
    intro source derived steps derivations comes tightening
    rcases comes.exists_contexts with ⟨context, known, reached⟩
    rcases Derivation.applyAll_of_isTightening tightening context with ⟨sameToken, earliest⟩
    refine ⟨context, _, known, reached, sameToken, fun instants anyOrder => ?_⟩
    rw [earliest]
    exact Derivation.min?_eq_of_perm anyOrder.symm
  case failsAlike =>
    intro source derived steps derivations operation error comes tightening fails
    exact comes.check?_eq tightening fails
  case failsForGood =>
    intro number steps operation error fails more other
    rw [run_append]
    exact exists_check?_run fails more other
  case failsBeforehand =>
    intro source derived steps more derivations operation error fails comes tightening other
    rcases exists_check?_run fails more other with ⟨reason, stillFails⟩
    rw [← run_append] at stillFails
    exact ⟨reason, comes.check?_eq tightening stillFails⟩
  case staysCancelled =>
    intro number steps operation cancelled more other
    rcases check?_eq_some_iff.mp cancelled with ⟨context, known, checked⟩
    have still := ((start.run steps).timeline_run more).isCancelled
      (CallContext.check_eq_cancelled_iff.mp checked)
    rw [run_append]
    exact check?_eq_some_iff.mpr
      ⟨context, getElem?_contexts_run known more, CallContext.check_eq_cancelled_iff.mpr still⟩
  case sparesParent =>
    intro parent descendant number steps derivations comes isChild operation
    rcases comes.exists_contexts with ⟨context, known, reached⟩
    rcases Derivation.exists_lineage_applyAll derivations context with
      ⟨numbers, lineage, generations⟩
    have apart := Token.not_descendsFrom_of_lineage lineage (generations number isChild)
    rw [run_append, check?_cancel reached known, apart]
    rfl
  case reaches =>
    intro source derived steps derivations comes operation
    rcases comes.exists_contexts with ⟨context, known, reached⟩
    rcases Derivation.exists_lineage_applyAll derivations context with ⟨numbers, lineage, -⟩
    rw [run_append, check?_cancel known reached, if_pos (Token.descendsFrom_of_lineage lineage)]

/-- A context for the same token starts without a deadline, unlike a clone. -/
example :
    ((⟨.start, []⟩ : ContextSession).run [.fresh, .withTimeout 0 50, .advance 20, .withDeadline 1 60,
        .withTimeout 2 10, .clone 3, .withToken 3]).contexts.map CallContext.deadline =
      [none, some 50, some 50, some 30, some 30, none] := by
  decide

end ContextSession

end IngressConvergence
