import IngressConvergence.CloudError

/-!
# Call contexts

Every call outside the controller runs under a context: a token that can be cancelled and perhaps a
deadline.  Time is a number of milliseconds that a `Timeline` holds together with the tokens that
have been cancelled.  A token is known by its line of descent, so that cancelling it reaches exactly
the token itself and its descendants.

A call under a context is a race between the call, the deadline and the cancellation.  It is decided
at the first instant at which one of them has come; at that instant cancellation counts first, then
the deadline, then the call.
-/

namespace IngressConvergence

/-! ## Tokens and time -/

/-- A cancellation token: its own number, followed by the numbers of its ancestors. -/
structure Token where
  lineage : List Nat
deriving DecidableEq, Repr

/-- Whether a token is another token or descends from it. -/
def Token.descendsFrom (token ancestor : Token) : Bool :=
  ancestor.lineage.isSuffixOf token.lineage

/-- The time, the tokens that were cancelled, and how many tokens were made. -/
structure Timeline where
  now : Nat
  cancelled : List Token
  made : Nat
deriving DecidableEq, Repr

namespace Timeline

/-- The time before anything happens: no token was made or cancelled. -/
def start : Timeline := ⟨0, [], 0⟩

/-- Let some time pass. -/
def advance (timeline : Timeline) (duration : Nat) : Timeline :=
  { timeline with now := timeline.now + duration }

/-- Let time pass up to an instant, which may have come already. -/
def advanceTo (timeline : Timeline) (instant : Nat) : Timeline :=
  { timeline with now := max timeline.now instant }

/-- Cancel a token, and with it its descendants. -/
def cancel (timeline : Timeline) (token : Token) : Timeline :=
  { timeline with cancelled := token :: timeline.cancelled }

/-- Whether a token or one of its ancestors was cancelled. -/
def isCancelled (timeline : Timeline) (token : Token) : Bool :=
  timeline.cancelled.any fun ancestor => token.descendsFrom ancestor

/-- Make a token without ancestors. -/
def newToken (timeline : Timeline) : Token × Timeline :=
  (⟨[timeline.made]⟩, { timeline with made := timeline.made + 1 })

/-- Make a token that descends from another. -/
def childToken (timeline : Timeline) (parent : Token) : Token × Timeline :=
  (⟨timeline.made :: parent.lineage⟩, { timeline with made := timeline.made + 1 })

end Timeline

/-! ## Contexts -/

/-- The context of a call: its token and perhaps an instant by which it has to end. -/
structure CallContext where
  token : Token
  deadline : Option Nat
deriving DecidableEq, Repr

namespace CallContext

/-- A context with a token and without a deadline. -/
def ofToken (token : Token) : CallContext := ⟨token, none⟩

/-- A context with a token of its own and without a deadline. -/
def fresh (timeline : Timeline) : CallContext × Timeline :=
  let (token, timeline) := timeline.newToken
  (ofToken token, timeline)

/-- A context without a deadline that is cancelled with this one, but not the other way round. -/
def child (context : CallContext) (timeline : Timeline) : CallContext × Timeline :=
  let (token, timeline) := timeline.childToken context.token
  (ofToken token, timeline)

/-- The context with a deadline; an earlier deadline stays. -/
def withDeadline (context : CallContext) (instant : Nat) : CallContext :=
  { context with deadline := some ((context.deadline.map (min · instant)).getD instant) }

/-- The context with a deadline that lies a given time ahead. -/
def withTimeout (context : CallContext) (timeline : Timeline) (duration : Nat) : CallContext :=
  context.withDeadline (timeline.now + duration)

/-- Whether the token of the context is cancelled. -/
def isCancelled (context : CallContext) (timeline : Timeline) : Bool :=
  timeline.isCancelled context.token

/-- Why an operation may not go on at an instant, when the token is cancelled at the latest at
`cancellation`: cancellation counts before the deadline. -/
def failureAt (context : CallContext) (timeline : Timeline) (operation : String)
    (cancellation : Option Nat) (instant : Nat) : Option CloudError :=
  if context.isCancelled timeline || cancellation.any (· ≤ instant) then
    some (.cancelled operation)
  else if context.deadline.any (· ≤ instant) then
    some (.deadlineExceeded operation)
  else none

/-- Whether an operation may start now; if not, why. -/
def check (context : CallContext) (timeline : Timeline) (operation : String) :
    Except CloudError Unit :=
  match context.failureAt timeline operation none timeline.now with
  | some error => .error error
  | none => .ok ()

/-! ## The race of a call -/

/-- How a call under a context ended: with what, when, and whether it was started at all. -/
structure Outcome (Value : Type) where
  result : Except CloudError Value
  instant : Nat
  started : Bool

/-- The instant at which the race of a call that takes `duration` is decided, once it has begun. -/
def decisionInstant (context : CallContext) (timeline : Timeline) (duration : Nat)
    (cancellation : Option Nat) : Nat :=
  let finish := timeline.now + duration
  let beforeDeadline :=
    match context.deadline with
    | some deadline => min finish (max timeline.now deadline)
    | none => finish
  match cancellation with
  | some cancelled => min beforeDeadline (max timeline.now cancelled)
  | none => beforeDeadline

/-- Run a call that takes `duration` and then gives `answer`, while the token is cancelled at the
instant `cancellation`, if at all.  A context that has ended does not start the call, and a call
that takes no time is over as soon as it has started. -/
def run {Value : Type} (context : CallContext) (timeline : Timeline) (operation : String)
    (duration : Nat) (answer : Except CloudError Value) (cancellation : Option Nat) :
    Outcome Value :=
  match context.failureAt timeline operation none timeline.now with
  | some error => ⟨.error error, timeline.now, false⟩
  | none =>
    if duration = 0 then ⟨answer, timeline.now, true⟩
    else
      let instant := context.decisionInstant timeline duration cancellation
      match context.failureAt timeline operation cancellation instant with
      | some error => ⟨.error error, instant, true⟩
      | none => ⟨answer, instant, true⟩

end CallContext

end IngressConvergence
