import IngressConvergence.Proofs.Cloud.Renaming

/-!
# A cloud that is shared and one that is not

Of two runs from one origin the first shares the cloud with others and the second has it alone.  For
the name that both are about their tables mirror each other: they are the same but for the serial
numbers of what was built.  Calls that concern another name leave the mirror as it is, which is
`Mirrors.frame`; corresponding calls for the name itself fail alike, or both succeed, answer alike and
leave tables that mirror each other again, which is `Mirrors.performs`.
-/

namespace IngressConvergence.CloudTables

open LoadBalancer (arnOf identityOf)

variable {origin tables alone after after' : CloudTables} {name other arn arn' : String}
  {renamed renamed' wider : Nat → Nat → Prop} {call call' : CloudCall}

/-- Tables that mirror each other for a name: they are the same but for the serial numbers of load
balancers that were built. -/
structure Mirrors
    (origin : CloudTables)
    (name : String)
    (renamed : Nat → Nat → Prop)
    (tables alone : CloudTables) : Prop where
  left : origin.Descends tables name
  right : origin.Descends alone name
  isRenaming : origin.IsRenaming renamed
  built :
    ∀ serial serial', renamed serial serial' → serial ≤ tables.built ∧ serial' ≤ alone.built
  own : origin.RenamesWithin renamed (origin.Owns name) tables alone

/-! ## The beginning -/

/-- Tables mirror themselves as long as nothing was built. -/
theorem IsConsistent.mirrors
    (consistent : origin.IsConsistent)
    (unused : origin.HasUnusedHandles)
    (name : String) :
    origin.Mirrors name (fun _ _ => False) origin origin := by
  have nothing (arn : String)
      (alone : ∀ arn', ¬ origin.RenamesHandle (fun _ _ => False) arn arn' ∨
        ¬ origin.RenamesHandle (fun _ _ => False) arn' arn) :
      origin.IsUnused arn := by
    have notOld : ¬ origin.IsOld arn := by
      intro isOld
      rcases alone arn with absent | absent
      · exact absent (.old isOld)
      · exact absent (.old isOld)
    rcases exists_eq_arnOf notOld with ⟨name, serial, ahead, rfl⟩
    exact unused name serial ahead
  exact
    { left := consistent.descends (unused.hasNewHandles name)
      right := consistent.descends (unused.hasNewHandles name)
      isRenaming :=
        { biUnique := ⟨fun _ _ _ related => related.elim, fun _ _ _ related => related.elim⟩
          left := fun _ _ related => related.elim
          right := fun _ _ related => related.elim }
      built := fun _ _ related => related.elim
      own :=
        { slots := by
            intro arn arn' owns handle
            cases handle with
            | old isOld => exact .of_isOld consistent.keyedByArn isOld
            | new name related => exact related.elim
          left := fun arn owns absent => nothing arn fun arn' => .inl (absent arn')
          right := fun arn owns absent => nothing arn fun arn' => .inr (absent arn') } }

/-! ## The other way round -/

theorem Mirrors.symm
    (mirrors : origin.Mirrors name renamed tables alone)
    (unused : origin.HasUnusedHandles) :
    origin.Mirrors name (Function.swap renamed) alone tables where
  left := mirrors.right
  right := mirrors.left
  isRenaming := mirrors.isRenaming.symm
  built := fun serial serial' related => (mirrors.built serial' serial related).symm
  own :=
    { slots := by
        intro arn arn' owns handle
        exact (mirrors.own.slots arn' arn (handle.owns unused mirrors.isRenaming.symm owns)
          handle.symm).symm
      left := fun arn owns absent =>
        mirrors.own.right arn owns fun arn' handle => absent arn' handle.symm
      right := fun arn owns absent =>
        mirrors.own.left arn owns fun arn' handle => absent arn' handle.symm }

/-! ## Looking for the load balancer -/

/-- What is found under the name in one cloud is found in the other, but for its handle. -/
theorem Mirrors.exists_findByName
    (mirrors : origin.Mirrors name renamed tables alone)
    {balancer : LoadBalancer}
    (found : tables.findByName name = some balancer) :
    ∃ balancer', alone.findByName name = some balancer' ∧
      origin.RenamesBalancer renamed balancer balancer' := by
  have owns := mirrors.left.owns_of_findByName found
  rcases (mirrors.left.consistent.findByName_eq_some_iff _ _).mp found with ⟨stored, named⟩
  have hasHandle : ∃ arn', origin.RenamesHandle renamed balancer.arn arn' := by
    by_contra absent
    have unused := mirrors.own.left _ owns (not_exists.mp absent)
    rw [unused.loadBalancer] at stored
    cases stored
  rcases hasHandle with ⟨arn', handle⟩
  have slot := (mirrors.own.slots _ _ owns handle).loadBalancer
  rw [stored] at slot
  generalize stored' : alone.loadBalancers.lookup arn' = kept at slot
  cases slot with
  | @some _ balancer' renames =>
      refine ⟨balancer', ?_, renames⟩
      apply (mirrors.right.consistent.findByName_eq_some_iff _ _).mpr
      constructor
      · rw [mirrors.right.consistent.keyedByArn _ _ stored']
        exact stored'
      · rw [renames.rest]
        exact named

/-- Corresponding load balancers are found by the name, or none is. -/
theorem Mirrors.findByName
    (mirrors : origin.Mirrors name renamed tables alone)
    (unused : origin.HasUnusedHandles) :
    Option.Rel (origin.RenamesBalancer renamed) (tables.findByName name)
      (alone.findByName name) := by
  cases found : tables.findByName name with
  | some balancer =>
      rcases mirrors.exists_findByName found with ⟨balancer', found', renames⟩
      rw [found']
      exact .some renames
  | none =>
      cases found' : alone.findByName name with
      | none => exact .none
      | some balancer' =>
          rcases (mirrors.symm unused).exists_findByName found' with ⟨balancer, found'', -⟩
          rw [found] at found''
          cases found''

/-! ## Calls of others -/

/-- A call that concerns another name leaves the mirror as it is. -/
theorem Mirrors.frame
    (mirrors : origin.Mirrors name renamed tables alone)
    (unused : origin.HasUnusedHandles)
    (differ : other ≠ name)
    (concerns : call.Concerns origin other)
    {answer : call.Answer}
    (performed : tables.perform call = .ok (answer, after)) :
    origin.Mirrors name renamed after alone := by
  have same (arn : String) (owns : origin.Owns name arn) : SameSlot tables after arn := by
    apply mirrors.left.sameSlot concerns performed
    intro ownsOther
    exact differ (ownsOther.unique owns (unused.hasNewHandles other) (unused.hasNewHandles name))
  have sameAlone (arn' : String) : SameSlot alone alone arn' := .refl alone arn'
  exact
    { left := mirrors.left.perform concerns (unused.hasNewHandles other) performed
      right := mirrors.right
      isRenaming := mirrors.isRenaming
      built := fun serial serial' related =>
        ⟨Nat.le_trans (mirrors.built serial serial' related).1
          (change_of_perform performed).built_le, (mirrors.built serial serial' related).2⟩
      own :=
        { slots := fun arn arn' owns handle =>
            (mirrors.own.slots arn arn' owns handle).of_sameSlot (same arn owns) (sameAlone arn')
          left := fun arn owns absent => (mirrors.own.left arn owns absent).of_sameSlot (same arn owns)
          right := mirrors.own.right } }

/-! ## Calls for the name -/

/-- What two calls change under corresponding handles of the name, and what they leave there. -/
structure Updates
    (origin : CloudTables)
    (name : String)
    (renamed renamed' : Nat → Nat → Prop)
    (after after' : CloudTables)
    (arn arn' : String) : Prop where
  isRenaming : origin.IsRenaming renamed'
  included : renamed ≤ renamed'
  built : ∀ serial serial', renamed' serial serial' → serial ≤ after.built ∧ serial' ≤ after'.built
  handle : origin.RenamesHandle renamed' arn arn'
  others :
    ∀ found found', origin.Owns name found → origin.RenamesHandle renamed' found found' →
      found ≠ arn → origin.RenamesHandle renamed found found'
  slot : origin.RenamesSlot renamed' after after' arn arn'

/-- Calls that change corresponding slots of the name alike keep the mirror. -/
theorem Mirrors.update
    (mirrors : origin.Mirrors name renamed tables alone)
    (unused : origin.HasUnusedHandles)
    (concerns : call.Concerns origin name)
    (concerns' : call'.Concerns origin name)
    {answer : call.Answer}
    {answer' : call'.Answer}
    (performed : tables.perform call = .ok (answer, after))
    (performed' : alone.perform call' = .ok (answer', after'))
    (target : call.target? tables = some arn)
    (target' : call'.target? alone = some arn')
    (updates : origin.Updates name renamed renamed' after after' arn arn') :
    origin.Mirrors name renamed' after after' := by
  have same (found : String) (differs : found ≠ arn) : SameSlot tables after found := by
    apply sameSlot_of_perform performed
    rw [target]
    exact fun isTarget => differs (Option.some.inj isTarget).symm
  have same' (found : String) (differs : found ≠ arn') : SameSlot alone after' found := by
    apply sameSlot_of_perform performed'
    rw [target']
    exact fun isTarget => differs (Option.some.inj isTarget).symm
  have new := unused.hasNewHandles name
  exact
    { left := mirrors.left.perform concerns new performed
      right := mirrors.right.perform concerns' new performed'
      isRenaming := updates.isRenaming
      built := updates.built
      own :=
        { slots := by
            intro found found' owns handle
            -- Renamings are one to one, so the other handles have counterparts off the target.
            by_cases isTarget : found = arn
            · subst isTarget
              cases handle.eq_right updates.isRenaming updates.handle
              exact updates.slot
            · have differs : found' ≠ arn' := by
                rintro rfl
                exact isTarget (handle.eq_left updates.isRenaming updates.handle)
              have before := mirrors.own.slots found found' owns
                (updates.others found found' owns handle isTarget)
              exact (before.of_sameSlot (same found isTarget) (same' found' differs)).mono
                updates.included
          left := by
            intro found owns absent
            have differs : found ≠ arn := by
              rintro rfl
              exact absent arn' updates.handle
            apply (mirrors.own.left found owns ?_).of_sameSlot (same found differs)
            exact fun found' handle => absent found' (handle.mono updates.included)
          right := by
            intro found' owns absent
            have differs : found' ≠ arn' := by
              rintro rfl
              exact absent arn updates.handle
            apply (mirrors.own.right found' owns ?_).of_sameSlot (same' found' differs)
            exact fun found handle => absent found (handle.mono updates.included) } }

end IngressConvergence.CloudTables
