import IngressConvergence.Proofs.World.Liveness

/-!
# The race of a call

A call under a context races against its token and against its deadline.  At every instant the token is
asked first, then the deadline, and the call itself last: the first of these branches that is ready
decides the race.  `Race.poll` asks them at one instant after the other.  The main statement is
`Race.decided`: a call ends as its race does, at the first instant at which any branch is ready, and it
is not started if one of the other branches is ready before it.
-/

namespace IngressConvergence

/-- A call that is made under a context: how long it takes, what it then answers, and at which instant
its token is cancelled, if at all. -/
structure Race (Value : Type) where
  context : CallContext
  timeline : Timeline
  operation : String
  duration : Nat
  answer : Except CloudError Value
  cancellation : Option Nat

/-- A check that fails says what keeps the operation from going on. -/
theorem CallContext.failureAt_of_check
    {context : CallContext}
    {timeline : Timeline}
    {operation : String}
    {error : CloudError}
    (refuses : context.check timeline operation = .error error) :
    context.failureAt timeline operation none timeline.now = some error := by
  rw [check] at refuses
  split at refuses
  next stops =>
    cases refuses
    exact stops
  next => cases refuses

namespace Race

variable {Value : Type} (race : Race Value)

/-- The instant at which the call begins. -/
def start : Nat := race.timeline.now

/-- How the call ends under its context. -/
def outcome : CallContext.Outcome Value :=
  race.context.run race.timeline race.operation race.duration race.answer race.cancellation

/-! ## The branches of a race -/

/-- Whether the token of the call is cancelled at an instant. -/
def isCancelledAt (instant : Nat) : Bool :=
  race.context.isCancelled race.timeline || race.cancellation.any (· ≤ instant)

/-- Whether the deadline of the call, if it has one, has come at an instant. -/
def isLateAt (instant : Nat) : Bool :=
  race.context.deadline.any (· ≤ instant)

/-- Whether the call has finished at an instant, if it was started. -/
def isFinishedAt (instant : Nat) : Bool :=
  race.start + race.duration ≤ instant

/-- Whether an instant is late enough for one of the branches. -/
def isOverAt (instant : Nat) : Bool :=
  race.isCancelledAt instant || race.isLateAt instant || race.isFinishedAt instant

/-- What the token gives at an instant, once it is cancelled. -/
def tokenBranch (instant : Nat) : Option (Except CloudError Value) :=
  if race.isCancelledAt instant then some (.error (.cancelled race.operation)) else none

/-- What the deadline gives at an instant, once it has come. -/
def deadlineBranch (instant : Nat) : Option (Except CloudError Value) :=
  if race.isLateAt instant then some (.error (.deadlineExceeded race.operation)) else none

/-- What the call gives at an instant, once it has finished. -/
def callBranch (instant : Nat) : Option (Except CloudError Value) :=
  if race.isFinishedAt instant then some race.answer else none

/-- The first branch that is ready at an instant decides. -/
def choose (instant : Nat) : Option (Except CloudError Value) :=
  [race.tokenBranch, race.deadlineBranch, race.callBranch].findSome? fun branch => branch instant

/-- Whether the call is asked at an instant: a branch is asked only if none before it is ready. -/
def asksCallAt (instant : Nat) : Bool :=
  (race.tokenBranch instant).isNone && (race.deadlineBranch instant).isNone

/-- Ask the branches at every instant from one on, for as many instants as there is patience. -/
def poll : (patience instant : Nat) → Option (Except CloudError Value × Nat)
  | 0, _ => none
  | patience + 1, instant =>
    match race.choose instant with
    | some result => some (result, instant)
    | none => poll patience (instant + 1)

/-- What a race that is over at an instant comes to: the token counts before the deadline, and the
deadline before the call. -/
def resultAt (instant : Nat) : Except CloudError Value :=
  if race.isCancelledAt instant then .error (.cancelled race.operation)
  else if race.isLateAt instant then .error (.deadlineExceeded race.operation)
  else race.answer

variable {race} {instant : Nat}

theorem choose_eq_some
    (isOver : race.isOverAt instant = true) :
    race.choose instant = some (race.resultAt instant) := by
  cases cancelled : race.isCancelledAt instant with
  | true => simp [choose, resultAt, tokenBranch, cancelled]
  | false =>
      cases late : race.isLateAt instant with
      | true => simp [choose, resultAt, tokenBranch, deadlineBranch, cancelled, late]
      | false =>
          have finished : race.isFinishedAt instant = true := by
            simpa [isOverAt, cancelled, late] using isOver
          simp [choose, resultAt, tokenBranch, deadlineBranch, callBranch, cancelled, late, finished]

theorem choose_eq_none
    (goesOn : race.isOverAt instant = false) :
    race.choose instant = none := by
  simp only [isOverAt, Bool.or_eq_false_iff] at goesOn
  simp [choose, tokenBranch, deadlineBranch, callBranch, goesOn]

/-! ## The first instant at which a race is isOver -/

/-- An instant from the start on at which a race is over, and before which it is not. -/
structure IsDecidedAt
    (race : Race Value)
    (instant : Nat) : Prop where
  ahead : race.start ≤ instant
  isOver : race.isOverAt instant = true
  notBefore :
    ∀ earlier, race.start ≤ earlier → earlier < instant → race.isOverAt earlier = false

theorem IsDecidedAt.unique
    {other : Nat}
    (decided : race.IsDecidedAt instant)
    (decidedToo : race.IsDecidedAt other) :
    instant = other := by
  rcases Nat.lt_trichotomy instant other with before | same | after
  · cases decided.isOver.symm.trans (decidedToo.notBefore instant decided.ahead before)
  · exact same
  · cases decidedToo.isOver.symm.trans (decided.notBefore other decidedToo.ahead after)

/-- A race that is over at its start is decided there. -/
theorem isDecidedAt_start
    (isOver : race.isOverAt race.start = true) :
    race.IsDecidedAt race.start :=
  ⟨Nat.le_refl _, isOver, fun _ ahead before => absurd before (Nat.not_lt.mpr ahead)⟩

/-- Polling from an instant on ends at the first instant at which the race is over, if there is patience
until then. -/
theorem poll_eq_some
    {patience first : Nat}
    (ahead : first ≤ instant)
    (patient : instant < first + patience)
    (isOver : race.isOverAt instant = true)
    (notBefore : ∀ earlier, first ≤ earlier → earlier < instant → race.isOverAt earlier = false) :
    race.poll patience first = some (race.resultAt instant, instant) := by
  induction patience generalizing first with
  | zero => omega
  | succ patience ih =>
      rw [poll]
      rcases Nat.eq_or_lt_of_le ahead with rfl | before
      · rw [choose_eq_some isOver]
      · rw [choose_eq_none (notBefore first (Nat.le_refl _) before)]
        exact ih before (by omega) fun earlier later => notBefore earlier (by omega)

/-- A race is over by the time at which its call would have finished. -/
theorem IsDecidedAt.le_finish
    (decided : race.IsDecidedAt instant) :
    instant ≤ race.start + race.duration := by
  refine Nat.le_of_not_lt fun after => ?_
  have notYet := decided.notBefore _ (Nat.le_add_right race.start race.duration) after
  simp [isOverAt, isFinishedAt] at notYet

/-! ## The end of a call -/

/-- What keeps an operation from going on is what the branches of its race say. -/
theorem failureAt_eq
    (race : Race Value)
    (instant : Nat) :
    race.context.failureAt race.timeline race.operation race.cancellation instant =
      if race.isCancelledAt instant then some (.cancelled race.operation)
      else if race.isLateAt instant then some (.deadlineExceeded race.operation)
      else none := rfl

/-- A cancellation that lies ahead does not keep an operation from starting. -/
theorem failureAt_start
    (later : ∀ cancelled, race.cancellation = some cancelled → race.start < cancelled) :
    race.context.failureAt race.timeline race.operation none race.start =
      race.context.failureAt race.timeline race.operation race.cancellation race.start := by
  have notYet : race.cancellation.any (· ≤ race.start) = false := by
    cases given : race.cancellation with
    | none => rfl
    | some cancelled => simpa using later cancelled given
  simp [CallContext.failureAt, notYet]

/-- Where the context gives a failure, the race is over with it and the call is not asked. -/
theorem resultAt_of_failureAt
    {error : CloudError}
    (fails :
      race.context.failureAt race.timeline race.operation race.cancellation instant = some error) :
    race.isOverAt instant = true ∧ race.resultAt instant = .error error ∧
      race.asksCallAt instant = false := by
  rw [failureAt_eq] at fails
  split at fails
  next cancelled =>
    cases fails
    simp [isOverAt, resultAt, asksCallAt, tokenBranch, cancelled]
  next notCancelled =>
    split at fails
    next late =>
      cases fails
      simp [isOverAt, resultAt, asksCallAt, deadlineBranch, notCancelled, late]
    next => cases fails

theorem resultAt_of_no_failureAt
    (goesOn :
      race.context.failureAt race.timeline race.operation race.cancellation instant = none) :
    race.isCancelledAt instant = false ∧ race.resultAt instant = race.answer ∧
      race.asksCallAt instant = true := by
  rw [failureAt_eq] at goesOn
  split at goesOn
  next => cases goesOn
  next notCancelled =>
    split at goesOn
    next => cases goesOn
    next notLate => simp [resultAt, asksCallAt, tokenBranch, deadlineBranch, notCancelled, notLate]

/-- The decision has come by an instant exactly if the cancellation, the deadline or the end of the call
has. -/
theorem decisionInstant_le_iff
    (race : Race Value)
    (ahead : race.start ≤ instant) :
    race.context.decisionInstant race.timeline race.duration race.cancellation ≤ instant ↔
      race.cancellation.any (· ≤ instant) = true ∨ race.context.deadline.any (· ≤ instant) = true ∨
        race.start + race.duration ≤ instant := by
  have began : race.timeline.now = race.start := rfl
  simp only [CallContext.decisionInstant, began]
  cases race.cancellation with
  | none =>
      cases race.context.deadline with
      | none => simp
      | some deadline =>
          simp only [Option.any_none, Option.any_some, Bool.false_eq_true, decide_eq_true_eq, false_or]
          omega
  | some cancelled =>
      cases race.context.deadline with
      | none =>
          simp only [Option.any_none, Option.any_some, Bool.false_eq_true, decide_eq_true_eq, false_or]
          omega
      | some deadline =>
          simp only [Option.any_some, decide_eq_true_eq]
          omega

/-- No race is decided before it begins. -/
theorem start_le_decisionInstant
    (race : Race Value) :
    race.start ≤ race.context.decisionInstant race.timeline race.duration race.cancellation := by
  have began : race.timeline.now = race.start := rfl
  simp only [CallContext.decisionInstant, began]
  cases race.cancellation with
  | none =>
      cases race.context.deadline with
      | none => exact Nat.le_add_right _ _
      | some deadline => exact Nat.le_min.mpr ⟨Nat.le_add_right _ _, Nat.le_max_left _ _⟩
  | some cancelled =>
      cases race.context.deadline with
      | none => exact Nat.le_min.mpr ⟨Nat.le_add_right _ _, Nat.le_max_left _ _⟩
      | some deadline =>
          exact Nat.le_min.mpr
            ⟨Nat.le_min.mpr ⟨Nat.le_add_right _ _, Nat.le_max_left _ _⟩, Nat.le_max_left _ _⟩

/-- A race whose token is not cancelled at the start is decided when the first of three instants has
come. -/
theorem isDecidedAt_decisionInstant
    (notCancelled : race.context.isCancelled race.timeline = false) :
    race.IsDecidedAt
      (race.context.decisionInstant race.timeline race.duration race.cancellation) := by
  have isOver (instant : Nat) (ahead : race.start ≤ instant) :
      race.isOverAt instant = true ↔
        race.context.decisionInstant race.timeline race.duration race.cancellation ≤ instant := by
    rw [decisionInstant_le_iff race ahead]
    simp [isOverAt, isCancelledAt, isLateAt, isFinishedAt, notCancelled, or_assoc]
  refine ⟨race.start_le_decisionInstant, ?_, fun earlier ahead before => ?_⟩
  · exact (isOver _ race.start_le_decisionInstant).mpr (Nat.le_refl _)
  · rw [← Bool.not_eq_true, isOver earlier ahead]
    exact Nat.not_le.mpr before

/-- Whether a call is refused, answers at once or takes its time, it ends with what its race comes to at
the instant at which the race is decided. -/
theorem exists_outcome_eq
    (later : ∀ cancelled, race.cancellation = some cancelled → race.start < cancelled) :
    ∃ instant, race.IsDecidedAt instant ∧
      race.outcome = ⟨race.resultAt instant, instant, race.asksCallAt race.start⟩ := by
  rw [outcome, CallContext.run, ← start, failureAt_start later]
  cases begins :
      race.context.failureAt race.timeline race.operation race.cancellation race.start with
  | some error =>
      rcases resultAt_of_failureAt begins with ⟨isOver, comesTo, notAsked⟩
      exact ⟨race.start, isDecidedAt_start isOver, by rw [comesTo, notAsked]⟩
  | none =>
      rcases resultAt_of_no_failureAt begins with ⟨notCancelled, answers, asked⟩
      rw [asked]
      by_cases atOnce : race.duration = 0
      · refine ⟨race.start, isDecidedAt_start ?_, ?_⟩
        · simp [isOverAt, isFinishedAt, atOnce]
        · simp only [if_pos atOnce, answers]
      · have notYet := (Bool.or_eq_false_iff.mp notCancelled).1
        refine ⟨_, isDecidedAt_decisionInstant notYet, ?_⟩
        simp only [if_neg atOnce]
        cases ends : race.context.failureAt race.timeline race.operation race.cancellation
            (race.context.decisionInstant race.timeline race.duration race.cancellation) with
        | some error => simp only [(resultAt_of_failureAt ends).2.1]
        | none => simp only [(resultAt_of_no_failureAt ends).2.1]

/-- A call ends as its race does. -/
structure IsDecided (race : Race Value) : Prop where
  /-- It ends at the first instant from the start on at which its token is cancelled, its deadline has
  come, or it has finished. -/
  decidedAt : race.IsDecidedAt race.outcome.instant
  cancelled :
    race.isCancelledAt race.outcome.instant = true →
      race.outcome.result = .error (.cancelled race.operation)
  late :
    race.isCancelledAt race.outcome.instant = false → race.isLateAt race.outcome.instant = true →
      race.outcome.result = .error (.deadlineExceeded race.operation)
  /-- What the call answers is passed on as it is. -/
  finished :
    race.isCancelledAt race.outcome.instant = false → race.isLateAt race.outcome.instant = false →
      race.outcome.result = race.answer
  /-- This is what polling the branches in their order comes to, and when. -/
  polled :
    ∀ patience, race.duration < patience →
      race.poll patience race.start = some (race.outcome.result, race.outcome.instant)
  /-- A call that may not start ends at once with the error of the check. -/
  refused :
    ∀ error, race.context.check race.timeline race.operation = .error error →
      race.outcome = ⟨.error error, race.start, false⟩
  /-- A call is started exactly if it is asked when the branches are polled first. -/
  started_iff : race.outcome.started = true ↔ race.asksCallAt race.start = true

/-- Every call ends as its race does, when its token is cancelled after the start or not at all. -/
theorem decided
    (race : Race Value)
    (later : ∀ cancelled, race.cancellation = some cancelled → race.start < cancelled) :
    race.IsDecided := by
  rcases exists_outcome_eq later with ⟨instant, decidedAt, ended⟩
  constructor
  case decidedAt =>
    rw [ended]
    exact decidedAt
  case cancelled =>
    rw [ended]
    intro cancelled
    exact if_pos cancelled
  case late =>
    rw [ended]
    intro notCancelled late
    simp only [resultAt, notCancelled, late]
    rfl
  case finished =>
    rw [ended]
    intro notCancelled notLate
    simp only [resultAt, notCancelled, notLate]
    rfl
  case polled =>
    intro patience patient
    have soon := decidedAt.le_finish
    rw [ended]
    exact poll_eq_some decidedAt.ahead (by omega) decidedAt.isOver decidedAt.notBefore
  case refused =>
    -- What refuses the check is over at the start, so that this is where the race is decided.
    intro error refuses
    have fails := CallContext.failureAt_of_check refuses
    change race.context.failureAt race.timeline race.operation none race.start = some error at fails
    rw [failureAt_start later] at fails
    rcases resultAt_of_failureAt fails with ⟨isOver, comesTo, notAsked⟩
    rw [ended, decidedAt.unique (isDecidedAt_start isOver), comesTo, notAsked]
  case started_iff => rw [ended]

/-- A call whose cancellation, deadline and end come at one instant. -/
def tie : Race Unit where
  context := ⟨⟨[0]⟩, some 30⟩
  timeline := ⟨5, [], 1⟩
  operation := "SetSubnets"
  duration := 25
  answer := .ok ()
  cancellation := some 30

/-- It ends at that instant as cancelled. -/
theorem decided_tie :
    (∀ cancelled, tie.cancellation = some cancelled → tie.start < cancelled) ∧
      tie.IsDecided ∧ tie.outcome = ⟨.error (.cancelled "SetSubnets"), 30, true⟩ := by
  have later : ∀ cancelled, tie.cancellation = some cancelled → tie.start < cancelled := by
    intro cancelled isThen
    cases isThen
    decide
  exact ⟨later, decided tie later, rfl⟩

end Race

end IngressConvergence
