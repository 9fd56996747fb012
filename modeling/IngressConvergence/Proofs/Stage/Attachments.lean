import IngressConvergence.Convergence.Attributes
import IngressConvergence.Convergence.Firewall
import IngressConvergence.Proofs.World.Success

/-!
# Converging attributes and the firewall policy

Attributes and the firewall policy of a load balancer are converged by reading what there is and
writing only what differs.  For each of the two this module shows that it leaves what is desired, that
it always succeeds where it should, and that it writes nothing where nothing differs.
-/

namespace IngressConvergence

/-- A load balancer carries attributes with the values that they should have. -/
def CloudTables.CarriesAttributes
    (tables : CloudTables)
    (arn : String)
    (attributes : Table String) : Prop :=
  ∀ name value, attributes.lookup name = some value →
    (tables.attributesOf arn).lookup name = some value

namespace Convergence

variable {calm after : CalmWorld} {arn : String} {done : Unit}

/-! ## Attributes -/

section Attributes

variable {desired : Table String}

/-- Nothing has to be changed exactly if every desired attribute is there. -/
theorem changedAttributes_isEmpty_iff
    (current desired : Table String) :
    (changedAttributes current desired).isEmpty = true ↔
      ∀ name value, desired.lookup name = some value → current.lookup name = some value := by
  rw [Table.isEmpty_iff]
  rw [changedAttributes]
  constructor
  · intro noneChanged name value wanted
    have kept := noneChanged name
    rw [Table.lookup_filter, wanted] at kept
    simpa using kept
  · intro present name
    rw [Table.lookup_filter]
    cases wanted : desired.lookup name with
    | none => rfl
    | some value => simp [present name value wanted]

theorem lookup_overlay_changedAttributes
    {current : Table String}
    {name value : String}
    (wanted : desired.lookup name = some value) :
    (current.overlay (changedAttributes current desired)).lookup name = some value := by
  rw [Table.lookup_overlay, changedAttributes, Table.lookup_filter, wanted]
  by_cases same : current.lookup name = some value
  · simp [same, Option.filter]
  · simp [same, Option.filter]

theorem attributesOf_setAttributes
    (tables : CloudTables)
    (arn : String)
    (attributes : Table String) :
    (tables.setAttributes arn attributes).attributesOf arn = attributes := by
  simp [CloudTables.setAttributes, CloudTables.attributesOf]

theorem carriesAttributes_of_isEmpty
    (noneDesired : desired.isEmpty = true)
    (tables : CloudTables)
    (arn : String) :
    tables.CarriesAttributes arn desired := by
  intro name value wanted
  rw [(Table.isEmpty_iff desired).mp noneDesired name] at wanted
  cases wanted

/-- Once attributes are converged the load balancer carries them, and nothing else has changed. -/
theorem carriesAttributes_of_yields
    (yields : calm.Yields (convergeAttributes arn desired) done after) :
    after.tables.CarriesAttributes arn desired ∧
      after.tables.loadBalancers = calm.tables.loadBalancers ∧
        after.tables.associations = calm.tables.associations := by
  rcases CalmWorld.yields_ite_iff.mp yields with ⟨-, reads⟩ | ⟨noneDesired, keeps⟩
  · rcases CalmWorld.yields_cloud_bind_iff.mp reads with ⟨current, tables, performed, goesOn⟩
    rcases CloudTables.readAttributes_eq_ok_iff.mp performed with ⟨-, rfl, rfl⟩
    rcases CalmWorld.yields_ite_iff.mp goesOn with ⟨-, writes⟩ | ⟨noneChanged, keeps⟩
    · rcases CalmWorld.yields_cloud_iff.mp (CalmWorld.yields_report_bind_iff.mp writes) with
        ⟨changed, written, rfl⟩
      rcases CloudTables.modifyAttributes_eq_ok_iff.mp written with ⟨-, rfl⟩
      refine ⟨?_, rfl, rfl⟩
      intro name value wanted
      apply Eq.trans (congrArg (Table.lookup · name) (attributesOf_setAttributes _ arn _))
      exact lookup_overlay_changedAttributes wanted
    · rcases CalmWorld.yields_pure_iff.mp keeps with ⟨-, rfl⟩
      have nothingLeft :
          (changedAttributes (calm.tables.attributesOf arn) desired).isEmpty = true := by
        simpa using noneChanged
      exact ⟨(changedAttributes_isEmpty_iff _ desired).mp nothingLeft, rfl, rfl⟩
  · rcases CalmWorld.yields_pure_iff.mp keeps with ⟨-, rfl⟩
    exact ⟨carriesAttributes_of_isEmpty (by simpa using noneDesired) _ _, rfl, rfl⟩

/-- The attributes of a load balancer that exists can be converged; nothing is written if it carries
them already. -/
theorem yields_convergeAttributes
    (exist : calm.tables.loadBalancers.contains arn = true)
    (desired : Table String) :
    ∃ after, calm.Yields (convergeAttributes arn desired) () after ∧
      (calm.tables.CarriesAttributes arn desired → calm.Untouched after) := by
  by_cases noneDesired : desired.isEmpty = true
  · refine ⟨calm, CalmWorld.yields_ite_iff.mpr (.inr ⟨by simp [noneDesired], ?_⟩), fun _ => .refl _⟩
    exact CalmWorld.yields_pure_iff.mpr ⟨rfl, rfl⟩
  · let current := calm.tables.attributesOf arn
    let changes := changedAttributes current desired
    let reading := calm.recording (.cloud (.readAttributes arn))
    have begins (final : CalmWorld)
        (goesOn :
          reading.Yields
            (if !changes.isEmpty then
              Attempt.report (.changingAttributes arn changes.keys) >>= fun _ =>
                Attempt.cloud (.modifyAttributes arn changes) Cause.cloud
            else pure () : Attempt Cause Unit) () final) :
        calm.Yields (convergeAttributes arn desired) () final := by
      refine CalmWorld.yields_ite_iff.mpr (.inl ⟨by simpa using noneDesired, ?_⟩)
      refine CalmWorld.yields_cloud_bind_iff.mpr ⟨current, calm.tables, ?_, goesOn⟩
      exact CloudTables.readAttributes_eq_ok_iff.mpr ⟨exist, rfl, rfl⟩
    by_cases noneChanged : changes.isEmpty = true
    · refine ⟨reading, begins _ ?_, fun _ => .recording calm rfl⟩
      refine CalmWorld.yields_ite_iff.mpr (.inr ⟨by simp [noneChanged], ?_⟩)
      exact CalmWorld.yields_pure_iff.mpr ⟨rfl, rfl⟩
    · have written :
          reading.tables.perform (.modifyAttributes arn changes) =
            .ok ((), reading.tables.setAttributes arn (current.overlay changes)) :=
        CloudTables.modifyAttributes_eq_ok_iff.mpr ⟨exist, rfl⟩
      refine ⟨_, begins _ (CalmWorld.yields_ite_iff.mpr (.inl ⟨by simpa using noneChanged,
        CalmWorld.yields_report_bind_iff.mpr
          (CalmWorld.yields_cloud_iff.mpr ⟨_, written, rfl⟩)⟩)), ?_⟩
      intro carries
      exact absurd ((changedAttributes_isEmpty_iff current desired).mpr carries) noneChanged

end Attributes

/-! ## The firewall policy -/

section Firewall

variable {desired : Option String}

/-- The firewall policy that is desired exists, if one is desired. -/
def IsKnown
    (tables : CloudTables)
    (desired : Option String) : Prop :=
  ∀ webAclId, desired = some webAclId → tables.webAcls.contains webAclId = true

theorem IsKnown.transport
    {tables after : CloudTables}
    (isKnown : IsKnown tables desired)
    (sameInventory : CloudTables.SameInventory tables after) :
    IsKnown after desired := by
  intro webAclId wanted
  rw [sameInventory.webAcls]
  exact isKnown webAclId wanted

/-- What the cloud answers of the firewall policy of a load balancer. -/
def currentWebAcl
    (tables : CloudTables)
    (arn : String) : Option WebAclSummary :=
  (tables.associationOf arn).map fun webAclId => ⟨webAclId, none⟩

/-- The world after the firewall policies were looked at. -/
def inspected
    (calm : CalmWorld)
    (arn : String) : Option String → CalmWorld
  | none => calm.recording (.cloud (.readWebAcl arn))
  | some webAclId =>
      (calm.recording (.cloud (.readWebAcl arn))).recording (.cloud (.checkWebAcl webAclId))

theorem untouched_inspected
    (calm : CalmWorld)
    (arn : String)
    (desired : Option String) :
    calm.Untouched (inspected calm arn desired) := by
  cases desired with
  | none => exact .recording calm rfl
  | some webAclId => exact .trans (.recording calm rfl) (.recording _ rfl)

/-- A firewall policy is accepted exactly if it is registered. -/
theorem yields_requireWebAcl_iff
    {webAclId : String} :
    calm.Yields (requireWebAcl arn webAclId) done after ↔
      calm.tables.webAcls.contains webAclId = true ∧
        after = calm.recording (.cloud (.checkWebAcl webAclId)) := by
  apply CalmWorld.yields_cloud_bind_iff.trans
  constructor
  · rintro ⟨known, tables, performed, goesOn⟩
    cases performed
    rcases CalmWorld.yields_ite_iff.mp goesOn with ⟨-, refuses⟩ | ⟨isKnown, keeps⟩
    · exact absurd refuses CalmWorld.not_yields_throw
    · rcases CalmWorld.yields_pure_iff.mp keeps with ⟨-, rfl⟩
      exact ⟨by simpa using isKnown, rfl⟩
  · rintro ⟨isKnown, rfl⟩
    refine ⟨_, _, rfl, CalmWorld.yields_ite_iff.mpr (.inr ⟨?_, ?_⟩)⟩
    · simpa using isKnown
    · exact CalmWorld.yields_pure_iff.mpr ⟨rfl, rfl⟩

/-- A firewall policy is converged by carrying out a plan, once what is desired was found to exist. -/
theorem yields_convergeWebAcl_iff :
    calm.Yields (convergeWebAcl arn desired) done after ↔
      IsKnown calm.tables desired ∧
        (inspected calm arn desired).Yields
          (carryOut arn (planWebAcl (currentWebAcl calm.tables arn) desired)) done after := by
  apply CalmWorld.yields_cloud_bind_iff.trans
  cases desired with
  | none =>
      constructor
      · rintro ⟨current, tables, performed, goesOn⟩
        cases performed
        exact ⟨fun _ wanted => (nomatch wanted), goesOn⟩
      · rintro ⟨-, goesOn⟩
        exact ⟨_, _, rfl, goesOn⟩
  | some webAclId =>
      constructor
      · rintro ⟨current, tables, performed, goesOn⟩
        cases performed
        rcases CalmWorld.yields_bind_iff.mp goesOn with ⟨checked, middle, requires, rest⟩
        rcases yields_requireWebAcl_iff.mp requires with ⟨isKnown, rfl⟩
        refine ⟨?_, rest⟩
        rintro _ ⟨⟩
        exact isKnown
      · rintro ⟨isKnown, goesOn⟩
        refine ⟨_, _, rfl, CalmWorld.yields_bind_iff.mpr ⟨(), _, ?_, goesOn⟩⟩
        exact yields_requireWebAcl_iff.mpr ⟨isKnown webAclId rfl, rfl⟩

/-- Nothing is planned exactly if the desired firewall policy is associated already. -/
theorem planWebAcl_eq_keep_iff
    (tables : CloudTables)
    (arn : String)
    (desired : Option String) :
    planWebAcl (currentWebAcl tables arn) desired = .keep ↔ tables.associationOf arn = desired := by
  unfold planWebAcl currentWebAcl
  cases desired with
  | none =>
      cases tables.associationOf arn with
      | none => simp
      | some current => simp
  | some webAclId =>
      cases tables.associationOf arn with
      | none => simp
      | some current => simp

theorem eq_some_of_planWebAcl_eq_associate
    {current : Option WebAclSummary}
    {webAclId : String}
    (plans : planWebAcl current desired = .associate webAclId) :
    desired = some webAclId := by
  simp only [planWebAcl] at plans
  cases desired with
  | none =>
      dsimp only at plans
      split at plans <;> cases plans
  | some wanted =>
      dsimp only at plans
      split at plans
      · cases plans
      · cases plans
        rfl

/-- The firewall policy that is associated once a plan was carried out. -/
def outcome
    (current : Option String) :
    WebAclPlan → Option String
  | .keep => current
  | .associate webAclId => some webAclId
  | .disassociate => none

/-- A plan leads to what is desired. -/
theorem outcome_planWebAcl
    (tables : CloudTables)
    (arn : String)
    (desired : Option String) :
    outcome (tables.associationOf arn) (planWebAcl (currentWebAcl tables arn) desired) =
      desired := by
  cases plan : planWebAcl (currentWebAcl tables arn) desired with
  | keep => exact (planWebAcl_eq_keep_iff tables arn desired).mp plan
  | associate webAclId => exact (eq_some_of_planWebAcl_eq_associate plan).symm
  | disassociate =>
      simp only [planWebAcl] at plan
      cases desired with
      | none => rfl
      | some wanted =>
          dsimp only at plan
          split at plan <;> cases plan

/-- What is carried out has the outcome of its plan, and changes nothing but the association. -/
theorem associationOf_of_yields_carryOut
    {plan : WebAclPlan}
    (yields : calm.Yields (carryOut arn plan) done after) :
    after.tables.associationOf arn = outcome (calm.tables.associationOf arn) plan ∧
      after.tables.loadBalancers = calm.tables.loadBalancers ∧
        after.tables.attributes = calm.tables.attributes := by
  cases plan with
  | keep =>
      rcases CalmWorld.yields_pure_iff.mp yields with ⟨-, rfl⟩
      exact ⟨rfl, rfl, rfl⟩
  | associate webAclId =>
      rcases CalmWorld.yields_cloud_iff.mp (CalmWorld.yields_report_bind_iff.mp yields) with
        ⟨tables, performed, rfl⟩
      rcases CloudTables.associateWebAcl_eq_ok_iff.mp performed with ⟨-, rfl⟩
      exact ⟨(Table.lookup_insert _ _ _ _).trans (if_pos rfl), rfl, rfl⟩
  | disassociate =>
      rcases CalmWorld.yields_cloud_iff.mp (CalmWorld.yields_report_bind_iff.mp yields) with
        ⟨tables, performed, rfl⟩
      cases performed
      exact ⟨(Table.lookup_erase _ _ _).trans (if_pos rfl), rfl, rfl⟩

/-- A plan can be carried out if what it associates exists; to keep is to change nothing. -/
theorem yields_carryOut
    (arn : String)
    (plan : WebAclPlan)
    (exist :
      ∀ webAclId, plan = .associate webAclId →
        calm.tables.webAcls.contains webAclId = true) :
    ∃ after, calm.Yields (carryOut arn plan) () after ∧ (plan = .keep → after = calm) := by
  cases plan with
  | keep => exact ⟨calm, CalmWorld.yields_pure_iff.mpr ⟨rfl, rfl⟩, fun _ => rfl⟩
  | associate webAclId =>
      obtain ⟨tables, performed⟩ :
          ∃ tables, calm.tables.perform (.associateWebAcl arn webAclId) = .ok ((), tables) :=
        ⟨_, CloudTables.associateWebAcl_eq_ok_iff.mpr ⟨exist webAclId rfl, rfl⟩⟩
      refine ⟨calm.served (.associateWebAcl arn webAclId) tables, ?_, fun keeps => nomatch keeps⟩
      exact CalmWorld.yields_report_bind_iff.mpr
        (CalmWorld.yields_cloud_iff.mpr ⟨tables, performed, rfl⟩)
  | disassociate =>
      obtain ⟨tables, performed⟩ :
          ∃ tables, calm.tables.perform (.disassociateWebAcl arn) = .ok ((), tables) :=
        ⟨_, rfl⟩
      refine ⟨calm.served (.disassociateWebAcl arn) tables, ?_, fun keeps => nomatch keeps⟩
      exact CalmWorld.yields_report_bind_iff.mpr
        (CalmWorld.yields_cloud_iff.mpr ⟨tables, performed, rfl⟩)

/-- Once the firewall policy is converged it is the desired one, it exists, and nothing else has
changed. -/
theorem associationOf_of_yields
    (yields : calm.Yields (convergeWebAcl arn desired) done after) :
    after.tables.associationOf arn = desired ∧ IsKnown calm.tables desired ∧
      after.tables.loadBalancers = calm.tables.loadBalancers ∧
        after.tables.attributes = calm.tables.attributes := by
  rcases yields_convergeWebAcl_iff.mp yields with ⟨isKnown, carries⟩
  rcases associationOf_of_yields_carryOut carries with ⟨associated, sameBalancers, sameAttributes⟩
  have same := (untouched_inspected calm arn desired).tables
  rw [same] at associated sameBalancers sameAttributes
  exact ⟨associated.trans (outcome_planWebAcl _ arn desired), isKnown, sameBalancers,
    sameAttributes⟩

/-- A firewall policy that exists can be converged, and so can none at all; nothing is written if the
association is the desired one already. -/
theorem yields_convergeWebAcl
    (isKnown : IsKnown calm.tables desired)
    (arn : String) :
    ∃ after, calm.Yields (convergeWebAcl arn desired) () after ∧
      (calm.tables.associationOf arn = desired → calm.Untouched after) := by
  have untouched := untouched_inspected calm arn desired
  have exist :
      ∀ webAclId, planWebAcl (currentWebAcl calm.tables arn) desired = .associate webAclId →
        (inspected calm arn desired).tables.webAcls.contains webAclId = true := by
    intro webAclId plans
    rw [untouched.tables]
    exact isKnown webAclId (eq_some_of_planWebAcl_eq_associate plans)
  rcases yields_carryOut arn _ exist with ⟨after, carries, keeps⟩
  refine ⟨after, yields_convergeWebAcl_iff.mpr ⟨isKnown, carries⟩, ?_⟩
  intro associated
  rw [keeps ((planWebAcl_eq_keep_iff calm.tables arn desired).mpr associated)]
  exact untouched

end Firewall

end Convergence

end IngressConvergence
