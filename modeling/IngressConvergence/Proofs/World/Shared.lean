import IngressConvergence.Proofs.Cloud.Mirror.Calls
import IngressConvergence.Proofs.Interleaving
import IngressConvergence.Proofs.World.Success

/-!
# A calm world that two runs share

Two programs, each about a name of its own, run at once in one calm world.  Each goes on as it would in
a calm world of its own: for its name the shared tables mirror the tables of its own world, and what
belongs to neither name stays as it was.  A request of either keeps this, which is
`CalmWorld.Shares.request`, and so does an interleaving to its end, which is
`CalmWorld.Shares.interleaves`.
-/

namespace IngressConvergence

/-- Under a live context a store that has no annotations to give out mentions no handle. -/
theorem Store.corresponds_annotationsOf
    {handles : String → String → Prop}
    {context : CallContext}
    {timeline : Timeline}
    (store : Store)
    (live : context.IsLive timeline)
    (key : IngressKey) :
    Corresponds (Cause.Alike handles) Eq (store.annotationsOf context timeline key)
      (store.annotationsOf context timeline key) := by
  rw [annotationsOf, CallContext.check_eq_ok_iff.mpr live]
  cases store.annotations key with
  | some annotations => exact .ok rfl
  | none => exact .error ⟨rfl, .nil⟩

namespace CalmWorld

open CloudTables (SameSlot)

variable {origin : CloudTables} {name other : String} {renamed renamed' : Nat → Nat → Prop}
  {shared alone alone' last : CalmWorld}

/-- A calm world that two runs share, beside one for each of them: serial numbers of the first run and
of the second correspond to those in its own world. -/
structure Shares
    (origin : CloudTables)
    (name other : String)
    (renamed renamed' : Nat → Nat → Prop)
    (shared alone alone' : CalmWorld) : Prop where
  first : origin.Mirrors name renamed shared.tables alone.tables
  second : origin.Mirrors other renamed' shared.tables alone'.tables
  /-- No load balancer was built by both runs. -/
  apart : ∀ serial serial' serial'', renamed serial serial' → ¬ renamed' serial serial''
  foreign :
    ∀ arn, ¬ origin.Owns name arn → ¬ origin.Owns other arn → SameSlot origin shared.tables arn
  counted : shared.tables.built + origin.built = alone.tables.built + alone'.tables.built
  store : alone.store = shared.store
  store' : alone'.store = shared.store
  answers : alone.answers = shared.answers
  answers' : alone'.answers = shared.answers

/-- Before either run asked for anything, the worlds are the same. -/
theorem shares_self
    (calm : CalmWorld)
    (consistent : calm.tables.IsConsistent)
    (unused : calm.tables.HasUnusedHandles)
    (name other : String) :
    Shares calm.tables name other (fun _ _ => False) (fun _ _ => False) calm calm calm where
  first := consistent.mirrors unused name
  second := consistent.mirrors unused other
  apart := fun _ _ _ related => related.elim
  foreign := fun arn _ _ => .refl _ arn
  counted := rfl
  store := rfl
  store' := rfl
  answers := rfl
  answers' := rfl

theorem Shares.symm
    (shares : Shares origin name other renamed renamed' shared alone alone') :
    Shares origin other name renamed' renamed shared alone' alone where
  first := shares.second
  second := shares.first
  apart := fun serial serial' serial'' related related' =>
    shares.apart serial serial'' serial' related' related
  foreign := fun arn notOther notName => shares.foreign arn notName notOther
  counted := by rw [shares.counted, Nat.add_comm]
  store := shares.store'
  store' := shares.store
  answers := shares.answers'
  answers' := shares.answers

/-! ## One request -/

theorem cloudCall_of_error
    {calm : CalmWorld}
    {call : CloudCall}
    {error : CloudError}
    (failed : calm.tables.perform call = .error error) :
    calm.cloudCall call = (.error error, calm.recording (.cloud call)) := by
  rw [cloudCall, failed]

theorem cloudCall_of_ok
    {calm : CalmWorld}
    {call : CloudCall}
    {answered : call.Answer}
    {after : CloudTables}
    (performed : calm.tables.perform call = .ok (answered, after)) :
    calm.cloudCall call = (.ok answered, { calm.recording (.cloud call) with tables := after }) := by
  rw [cloudCall, performed]

/-- What a request of the first run comes to: its replies correspond, and the worlds are shared as
before. -/
structure Shares.Step
    (origin : CloudTables)
    (name other : String)
    (renamed renamed' : Nat → Nat → Prop)
    (shared alone alone' : CalmWorld)
    (asked asked' : Request)
    (more : Nat → Nat → Prop) : Prop where
  included : renamed ≤ more
  shares :
    Shares origin name other more renamed' (answer asked shared).2 (answer asked' alone).2 alone'
  replied :
    ∀ wider replies, more ≤ wider →
      asked.Alike (origin.likenessFor name wider) asked' replies →
      replies (answer asked shared).1 (answer asked' alone).1

/-- A call of the first run that succeeds in both worlds leaves them shared. -/
theorem Shares.performed
    (shares : Shares origin name other renamed renamed' shared alone alone')
    (unused : origin.HasUnusedHandles)
    (differ : name ≠ other)
    {call call' : CloudCall}
    (concerns : call.Concerns origin name)
    {answered : call.Answer}
    {after after' : CloudTables}
    {more : Nat → Nat → Prop}
    (performed : shared.tables.perform call = .ok (answered, after))
    (mirrors : origin.Mirrors name more after after')
    (fresh :
      ∀ serial serial', more serial serial' →
        renamed serial serial' ∨ shared.tables.built < serial)
    (counted : after.built + alone.tables.built = shared.tables.built + after'.built) :
    Shares origin name other more renamed'
      { shared.recording (.cloud call) with tables := after }
      { alone.recording (.cloud call') with tables := after' } alone' where
  first := mirrors
  second := shares.second.frame unused differ concerns performed
  apart := by
    intro serial serial' serial'' related related'
    rcases fresh serial serial' related with before | ahead
    · exact shares.apart serial serial' serial'' before related'
    · exact absurd (shares.second.built serial serial'' related').1 (Nat.not_le_of_lt ahead)
  foreign := by
    intro arn notName notOther
    exact (shares.foreign arn notName notOther).trans
      (shares.first.left.sameSlot concerns performed notName)
  counted := by
    show after.built + origin.built = after'.built + alone'.tables.built
    have before := shares.counted
    omega
  store := shares.store
  store' := shares.store'
  answers := shares.answers
  answers' := shares.answers'

/-- A call to the cloud by the first run. -/
theorem Shares.cloudCall
    (shares : Shares origin name other renamed renamed' shared alone alone')
    (unused : origin.HasUnusedHandles)
    (differ : name ≠ other)
    {call call' : CloudCall}
    {answers : call.Answer → call'.Answer → Prop}
    (alike : call.Alike (origin.likenessFor name renamed) call' answers) :
    ∃ more,
      Shares.Step origin name other renamed renamed' shared alone alone' (.cloud call) (.cloud call')
        more := by
  cases shares.first.performs unused alike with
  | fails failed failed' alikeErrors =>
      have replied := cloudCall_of_error failed
      have replied' := cloudCall_of_error failed'
      refine ⟨renamed, le_refl renamed, ?_, ?_⟩
      · show Shares _ _ _ _ _ (shared.cloudCall call).2 (alone.cloudCall call').2 _
        rw [replied, replied']
        exact { shares with }
      · intro wider replies included alikeToo
        show replies (shared.cloudCall call).1 (alone.cloudCall call').1
        rw [replied, replied']
        cases alikeToo with
        | cloud alikeToo =>
            apply Corresponds.error
            apply alikeErrors.mono
            exact fun arn arn' handle => CloudTables.renamesHandle_iff.mp (handle.mono included)
  | succeeds more performed performed' included fresh mirrors counted correspond =>
      have replied := cloudCall_of_ok performed
      have replied' := cloudCall_of_ok performed'
      refine ⟨more, included, ?_, ?_⟩
      · show Shares _ _ _ _ _ (shared.cloudCall call).2 (alone.cloudCall call').2 _
        rw [replied, replied']
        exact shares.performed unused differ alike.concerns performed mirrors fresh counted
      · intro wider replies includedToo alikeToo
        show replies (shared.cloudCall call).1 (alone.cloudCall call').1
        rw [replied, replied']
        cases alikeToo with
        | cloud alikeToo => exact .ok (correspond wider _ includedToo alikeToo)

/-- A request of the first run is answered alike in the shared world and in its own, and both worlds are
shared as before. -/
theorem Shares.request
    (shares : Shares origin name other renamed renamed' shared alone alone')
    (unused : origin.HasUnusedHandles)
    (differ : name ≠ other)
    {asked asked' : Request}
    {replies : asked.Reply → asked'.Reply → Prop}
    (alike : asked.Alike (origin.likenessFor name renamed) asked' replies) :
    ∃ more, Shares.Step origin name other renamed renamed' shared alone alone' asked asked' more := by
  cases alike with
  | cloud alike => exact shares.cloudCall unused differ alike
  | report event event' =>
      refine ⟨renamed, le_refl renamed, shares, ?_⟩
      intro wider replies included alikeToo
      cases alikeToo
      trivial
  | checkpoint operation =>
      refine ⟨renamed, le_refl renamed, shares, ?_⟩
      intro wider replies included alikeToo
      cases alikeToo
      exact .ok rfl
  | configuration =>
      refine ⟨renamed, le_refl renamed, shares, ?_⟩
      intro wider replies included alikeToo
      cases alikeToo
      exact ⟨congrArg Store.configuration shares.store.symm, trivial⟩
  | annotationsOf key =>
      refine ⟨renamed, le_refl renamed, shares, ?_⟩
      intro wider replies included alikeToo
      cases alikeToo
      have same : (answer (.annotationsOf key) alone).1 = (answer (.annotationsOf key) shared).1 :=
        congrArg (Store.annotationsOf · (CallContext.fresh .start).1 .start key) shares.store
      rw [same]
      exact shared.store.corresponds_annotationsOf CallContext.isLive_fresh key
  | @collaborator call call' answers alike =>
      refine ⟨renamed, le_refl renamed, { shares with }, ?_⟩
      intro wider replies included alikeToo
      cases alikeToo with
      | @collaborator _ _ answers alikeToo =>
          apply Corresponds.ok
          show answers (shared.answers call) (alone.answers call')
          rw [shares.answers]
          cases alikeToo with
          | convergeTargetGroups ingress => rfl
          | collectTargetGroups inUse => rfl
          | deleteTargetGroups key => rfl
          | _ => trivial

/-! ## Runs -/

/-- In an interleaving each of two programs comes to a result that corresponds to the one it comes to in
its own world. -/
theorem Shares.interleaves
    {First First' Second Second' : Type}
    {results : (Nat → Nat → Prop) → First → First' → Prop}
    {results' : (Nat → Nat → Prop) → Second → Second' → Prop}
    {program : Program First}
    {program' : Program Second}
    {own : Program First'}
    {own' : Program Second'}
    {value : First}
    {value' : Second}
    (interleaved :
      Program.Interleaves answer answer program program' shared value value' last)
    (unused : origin.HasUnusedHandles)
    (differ : name ≠ other)
    (alike :
      ∀ wider, renamed ≤ wider →
        program.Alike (origin.likenessFor name wider) (results wider) own)
    (alike' :
      ∀ wider, renamed' ≤ wider →
        program'.Alike (origin.likenessFor other wider) (results' wider) own')
    (shares : Shares origin name other renamed renamed' shared alone alone') :
    ∃ more more',
      results more value (own.run answer alone).1 ∧
        results' more' value' (own'.run answer alone').1 ∧
        Shares origin name other more more' last (own.run answer alone).2
          (own'.run answer alone').2 := by
  -- The world of a program moves only when that program does, and its renaming only grows; so both
  -- programs must go on alike under every wider renaming.
  induction interleaved generalizing own own' renamed renamed' alone alone' with
  | done value value' state =>
      cases alike renamed (le_refl renamed) with
      | done correspond =>
          cases alike' renamed' (le_refl renamed') with
          | done correspond' => exact ⟨renamed, renamed', correspond, correspond', shares⟩
  | first rest ih =>
      cases alike renamed (le_refl renamed) with
      | request alikeAsked alikeRest =>
          rcases shares.request unused differ alikeAsked with ⟨more, step⟩
          apply ih _ alike' step.shares
          intro wider included
          cases alike wider (le_trans step.included included) with
          | request alikeAsked alikeRest =>
              exact alikeRest _ _ (step.replied wider _ included alikeAsked)
  | second rest ih =>
      cases alike' renamed' (le_refl renamed') with
      | request alikeAsked alikeRest =>
          rcases shares.symm.request unused differ.symm alikeAsked with ⟨more, step⟩
          apply ih alike _ step.shares.symm
          intro wider included
          cases alike' wider (le_trans step.included included) with
          | request alikeAsked alikeRest =>
              exact alikeRest _ _ (step.replied wider _ included alikeAsked)

end CalmWorld

end IngressConvergence
