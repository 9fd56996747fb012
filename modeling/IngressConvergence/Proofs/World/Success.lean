import IngressConvergence.Proofs.Cloud.Consistency
import IngressConvergence.Proofs.World.Undisturbed

/-!
# Attempts that succeed in a calm world

`CalmWorld.Yields` says that an attempt succeeds in a calm world, with which value and in which world
it ends.  For each way in which attempts are put together one equivalence says when this is so, which
turns an attempt into a statement about tables.  Whatever succeeds keeps the tables consistent and the
inventory, the store and the answers of collaborators as they are.
-/

namespace IngressConvergence

/-- Whether an effect is a call that changes the cloud. -/
def Effect.isMutating : Effect → Bool
  | .cloud call => call.isMutating
  | .collaborator _ => false

namespace CalmWorld

variable {Failure Other First Second Value : Type} {calm after : CalmWorld}

/-- An attempt succeeds with a value and leaves another calm world. -/
def Yields
    (calm : CalmWorld)
    (attempt : Attempt Failure Value)
    (value : Value)
    (after : CalmWorld) : Prop :=
  calm.run attempt = (.ok value, after)

theorem Yields.value_eq
    {attempt : Attempt Failure Value}
    {value other : Value}
    {later : CalmWorld}
    (yields : calm.Yields attempt value after)
    (yieldsOther : calm.Yields attempt other later) :
    other = value := by
  have same : Except.ok other = (Except.ok value : Except Failure Value) :=
    congrArg Prod.fst (yieldsOther.symm.trans yields)
  cases same
  rfl

/-- The world after a call to the cloud that left some tables. -/
def served
    (calm : CalmWorld)
    (call : CloudCall)
    (tables : CloudTables) : CalmWorld :=
  { calm.recording (.cloud call) with tables }

theorem ok_eq_ok_iff
    {value given : Value} :
    ((.ok value, calm) : Except Failure Value × CalmWorld) = (.ok given, after) ↔
      given = value ∧ after = calm := by
  rw [Prod.mk.injEq, Except.ok.injEq]
  exact ⟨fun both => ⟨both.1.symm, both.2.symm⟩, fun both => ⟨both.1.symm, both.2.symm⟩⟩

theorem error_eq_ok_iff
    {failure : Failure}
    {value : Value} :
    ((.error failure, calm) : Except Failure Value × CalmWorld) = (.ok value, after) ↔ False := by
  constructor
  · intro same
    cases same
  · exact False.elim

/-! ## Ways to put attempts together -/

theorem yields_pure_iff
    {value given : Value} :
    calm.Yields (pure value : Attempt Failure Value) given after ↔
      given = value ∧ after = calm :=
  ok_eq_ok_iff

theorem not_yields_throw
    {failure : Failure}
    {value : Value} :
    ¬ calm.Yields (throw failure : Attempt Failure Value) value after := by
  intro yields
  cases yields

theorem yields_ofExcept_iff
    {result : Except Failure Value}
    {value : Value} :
    calm.Yields (ExceptT.mk (.done result)) value after ↔
      result = .ok value ∧ after = calm := by
  show (result, calm) = (.ok value, after) ↔ _
  rw [Prod.mk.injEq]
  exact ⟨fun both => ⟨both.1, both.2.symm⟩, fun both => ⟨both.1, both.2.symm⟩⟩

theorem yields_ite_iff
    {condition : Prop}
    [Decidable condition]
    {first second : Attempt Failure Value}
    {value : Value} :
    calm.Yields (if condition then first else second) value after ↔
      condition ∧ calm.Yields first value after ∨
        ¬ condition ∧ calm.Yields second value after := by
  by_cases holds : condition
  · simp [holds]
  · simp [holds]

/-- One attempt after the other succeeds if the first does and then the other. -/
theorem yields_bind_iff
    {attempt : Attempt Failure First}
    {next : First → Attempt Failure Second}
    {value : Second} :
    calm.Yields (attempt >>= next) value after ↔
      ∃ first middle, calm.Yields attempt first middle ∧
        middle.Yields (next first) value after := by
  simp only [Yields, run]
  rw [Attempt.run_bind]
  rcases Program.run answer (ExceptT.run attempt) calm with ⟨result, middle⟩
  cases result with
  | error failure => simp
  | ok first =>
      constructor
      · intro yields
        exact ⟨first, middle, rfl, yields⟩
      · rintro ⟨found, between, same, yields⟩
        rcases Prod.mk.inj same with ⟨sameResult, rfl⟩
        cases sameResult
        exact yields

theorem yields_mapFailure_iff
    {attempt : Attempt Failure Value}
    {wrap : Failure → Other}
    {value : Value} :
    calm.Yields (attempt.mapFailure wrap) value after ↔ calm.Yields attempt value after := by
  simp only [Yields, run]
  have parts := Program.run_bind answer (ExceptT.run attempt)
    (fun result => .done (result.mapError wrap)) calm
  have whole : Program.run answer (ExceptT.run (attempt.mapFailure wrap)) calm = _ := parts
  rw [whole]
  rcases Program.run answer (ExceptT.run attempt) calm with ⟨result, middle⟩
  cases result with
  | error failure => exact error_eq_ok_iff.trans error_eq_ok_iff.symm
  | ok first => exact ok_eq_ok_iff.trans ok_eq_ok_iff.symm

theorem run_reporting
    (calm : CalmWorld)
    (attempt : Attempt Failure Value)
    (event : Except Failure Value → Option Event) :
    calm.run (attempt.reporting event) = calm.run attempt := by
  rw [run, Attempt.reporting]
  apply (Program.run_bind answer (ExceptT.run attempt) _ calm).trans
  cases event (Program.run answer (ExceptT.run attempt) calm).1 with
  | some event => rfl
  | none => rfl

theorem yields_reporting_iff
    {attempt : Attempt Failure Value}
    {event : Except Failure Value → Option Event}
    {value : Value} :
    calm.Yields (attempt.reporting event) value after ↔ calm.Yields attempt value after := by
  simp only [Yields]
  rw [run_reporting]

/-! ## Single requests -/

theorem yields_cloud_iff
    {call : CloudCall}
    {wrap : CloudError → Failure}
    {value : call.Answer} :
    calm.Yields (Attempt.cloud call wrap) value after ↔
      ∃ tables, calm.tables.perform call = .ok (value, tables) ∧
        after = calm.served call tables := by
  have run :
      calm.run (Attempt.cloud call wrap) =
        ((calm.cloudCall call).1.mapError wrap, (calm.cloudCall call).2) :=
    rfl
  rw [Yields]
  rw [run, cloudCall]
  cases calm.tables.perform call with
  | error error =>
      constructor
      · intro yields
        cases yields
      · rintro ⟨tables, same, -⟩
        cases same
  | ok done =>
      rcases done with ⟨answer, tables⟩
      constructor
      · intro yields
        cases yields
        exact ⟨tables, rfl, rfl⟩
      · rintro ⟨changed, same, rfl⟩
        cases same
        rfl

/-- What follows a call to the cloud goes on with its answer from the tables that it left. -/
theorem yields_cloud_bind_iff
    {call : CloudCall}
    {wrap : CloudError → Failure}
    {next : call.Answer → Attempt Failure Value}
    {value : Value} :
    calm.Yields (Attempt.cloud call wrap >>= next) value after ↔
      ∃ answer tables, calm.tables.perform call = .ok (answer, tables) ∧
        (calm.served call tables).Yields (next answer) value after := by
  rw [yields_bind_iff]
  constructor
  · rintro ⟨answer, middle, calls, rest⟩
    rcases yields_cloud_iff.mp calls with ⟨tables, performed, rfl⟩
    exact ⟨answer, tables, performed, rest⟩
  · rintro ⟨answer, tables, performed, rest⟩
    exact ⟨answer, _, yields_cloud_iff.mpr ⟨tables, performed, rfl⟩, rest⟩

theorem yields_collaborator_iff
    {call : CollaboratorCall}
    {wrap : Cause → Failure}
    {value : call.Answer} :
    calm.Yields (Attempt.collaborator call wrap) value after ↔
      value = calm.answers call ∧ after = calm.recording (.collaborator call) :=
  ok_eq_ok_iff

theorem yields_checkpoint_iff
    {operation : String}
    {wrap : CloudError → Failure}
    {value : Unit} :
    calm.Yields (Attempt.checkpoint operation wrap) value after ↔ after = calm :=
  ok_eq_ok_iff.trans ⟨fun both => both.2, fun same => ⟨rfl, same⟩⟩

theorem yields_annotationsOf_iff
    {key : IngressKey}
    {wrap : Cause → Failure}
    {value : IngressAnnotations} :
    calm.Yields (Attempt.annotationsOf key wrap) value after ↔
      calm.store.annotations key = some value ∧ after = calm := by
  have run :
      calm.run (Attempt.annotationsOf key wrap) =
        ((calm.store.annotationsOf (CallContext.fresh .start).1 .start key).mapError wrap, calm) :=
    rfl
  have starts :
      (CallContext.fresh .start).1.check .start "GetIngressAnnotations" = .ok () :=
    CallContext.check_eq_ok_iff.mpr CallContext.isLive_fresh
  rw [Yields]
  rw [run, Store.annotationsOf, starts]
  cases calm.store.annotations key with
  | none =>
      constructor
      · intro yields
        cases yields
      · rintro ⟨same, -⟩
        cases same
  | some annotations =>
      refine ok_eq_ok_iff.trans (and_congr_left fun _ => ?_)
      rw [Option.some.injEq, eq_comm]

theorem yields_configuration_iff
    {value : Configuration} :
    calm.Yields (Attempt.configuration : Attempt Failure Configuration) value after ↔
      value = calm.store.configuration ∧ after = calm :=
  ok_eq_ok_iff

theorem yields_report_iff
    {event : Event}
    {value : Unit} :
    calm.Yields (Attempt.report event : Attempt Failure Unit) value after ↔ after = calm :=
  ok_eq_ok_iff.trans ⟨fun both => both.2, fun same => ⟨rfl, same⟩⟩

theorem yields_report_bind_iff
    {event : Event}
    {attempt : Attempt Failure Value}
    {value : Value} :
    calm.Yields (Attempt.report event >>= fun _ => attempt) value after ↔
      calm.Yields attempt value after := by
  rw [yields_bind_iff]
  constructor
  · rintro ⟨done, middle, reported, yields⟩
    rw [yields_report_iff.mp reported] at yields
    exact yields
  · intro yields
    exact ⟨(), calm, yields_report_iff.mpr rfl, yields⟩

/-! ## Runs that change nothing -/

/-- The tables are as they were, and no call that may change them was put on record. -/
structure Untouched
    (calm after : CalmWorld) : Prop where
  tables : after.tables = calm.tables
  mutations : after.effects.filter Effect.isMutating = calm.effects.filter Effect.isMutating

theorem Untouched.refl (calm : CalmWorld) : Untouched calm calm := ⟨rfl, rfl⟩

theorem Untouched.trans
    {middle : CalmWorld}
    (first : Untouched calm middle)
    (second : Untouched middle after) :
    Untouched calm after where
  tables := second.tables.trans first.tables
  mutations := second.mutations.trans first.mutations

theorem Untouched.sameInventory
    (untouched : Untouched calm after) :
    CloudTables.SameInventory calm.tables after.tables := by
  rw [untouched.tables]
  exact .refl calm.tables

/-- What is on record of a request that changes nothing does not count as a change. -/
theorem Untouched.recording
    (calm : CalmWorld)
    {effect : Effect}
    (reads : effect.isMutating = false) :
    Untouched calm (calm.recording effect) where
  tables := rfl
  mutations := by simp [CalmWorld.recording, reads]

/-! ## What every run keeps -/

/-- What a run in a calm world keeps, whatever it does. -/
structure Keeps
    (calm after : CalmWorld) : Prop where
  store : after.store = calm.store
  answers : after.answers = calm.answers
  inventory : CloudTables.SameInventory calm.tables after.tables
  consistent : calm.tables.IsConsistent → after.tables.IsConsistent

theorem Keeps.refl (calm : CalmWorld) : Keeps calm calm :=
  ⟨rfl, rfl, .refl _, id⟩

theorem Keeps.trans
    {middle : CalmWorld}
    (first : Keeps calm middle)
    (second : Keeps middle after) :
    Keeps calm after where
  store := second.store.trans first.store
  answers := second.answers.trans first.answers
  inventory := first.inventory.trans second.inventory
  consistent := second.consistent ∘ first.consistent

theorem keeps_cloudCall
    (calm : CalmWorld)
    (call : CloudCall) :
    Keeps calm (calm.cloudCall call).2 := by
  rw [cloudCall]
  cases performed : calm.tables.perform call with
  | error error => exact ⟨rfl, rfl, .refl _, id⟩
  | ok done =>
      have change := CloudTables.change_of_perform performed
      exact ⟨rfl, rfl, change.sameInventory, change.isConsistent⟩

theorem keeps_answer
    (asked : Request)
    (calm : CalmWorld) :
    Keeps calm (answer asked calm).2 := by
  cases asked with
  | annotationsOf key => exact .refl calm
  | configuration => exact .refl calm
  | checkpoint operation => exact .refl calm
  | report event => exact .refl calm
  | cloud call => exact calm.keeps_cloudCall call
  | collaborator call => exact ⟨rfl, rfl, .refl _, id⟩

/-- A run keeps the store, the answers of collaborators, the inventory and consistency. -/
theorem keeps_run
    (calm : CalmWorld)
    (attempt : Attempt Failure Value) :
    Keeps calm (calm.run attempt).2 :=
  Program.run_invariant answer
    (fun asked middle keeps => keeps.trans (keeps_answer asked middle))
    (ExceptT.run attempt) calm (.refl calm)

theorem Yields.keeps
    {attempt : Attempt Failure Value}
    {value : Value}
    (yields : calm.Yields attempt value after) :
    Keeps calm after := by
  have kept := calm.keeps_run attempt
  have run : calm.run attempt = (.ok value, after) := yields
  rw [run] at kept
  exact kept

end CalmWorld

/-! ## Runs that go as in a calm world -/

namespace World.RunsAs

variable {Failure Value : Type} {world : World} {calm after : CalmWorld}
  {attempt : Attempt Failure Value} {value : Value}

theorem yields_of_eq_ok
    (runsAs : world.RunsAs calm (ExceptT.run attempt))
    (succeeds : (world.run attempt).1 = .ok value) :
    calm.Yields attempt value (calm.run attempt).2 :=
  Prod.ext (runsAs.result.symm.trans succeeds) rfl

theorem eq_ok_of_yields
    (runsAs : world.RunsAs calm (ExceptT.run attempt))
    (yields : calm.Yields attempt value after) :
    (world.run attempt).1 = .ok value :=
  runsAs.result.trans (congrArg Prod.fst yields)

/-- A run leaves a world that agrees with the calm world that the attempt leaves. -/
theorem matches_of_yields
    (runsAs : world.RunsAs calm (ExceptT.run attempt))
    (yields : calm.Yields attempt value after) :
    (world.run attempt).2.Matches after := by
  have left : (calm.run attempt).2 = after := congrArg Prod.snd yields
  rw [← left]
  exact runsAs.agrees

/-- A run leaves on record what the attempt leaves on record in the calm world. -/
theorem effects_of_yields
    (runsAs : world.RunsAs calm (ExceptT.run attempt))
    (yields : calm.Yields attempt value after) :
    after.effects = calm.effects ++ world.record attempt := by
  have left : (calm.run attempt).2 = after := congrArg Prod.snd yields
  rw [← left]
  exact runsAs.recorded

end World.RunsAs

end IngressConvergence
