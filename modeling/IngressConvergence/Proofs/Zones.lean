import IngressConvergence.Proofs.Course.Ending

/-!
# Subnets and zones

The cloud keeps the subnets of a load balancer as zones, one for each subnet, and gives them back from
there.  Zones are named by letters, of which there are twenty-six; subnets may be more, and none of them
may be lost, because a lost subnet would be set again in every cycle.  Whether subnets have to be set is
decided by what elements two lists have.

The main statement is `CloudTables.keepsSubnets`.
-/

namespace IngressConvergence

/-! ## Zones -/

namespace LoadBalancer

/-- The letters that zones are named by, in their order. -/
def zoneLetters : List Char :=
  "abcdefghijklmnopqrstuvwxyz".toList

theorem getElem?_zoneLetters
    (position : Nat) :
    zoneLetters[position % 26]? = some (zoneLetter position) := by
  have everyLetter : ∀ letter < 26, zoneLetters[letter]? = some (Char.ofNat ('a'.toNat + letter)) := by
    decide
  exact everyLetter _ (Nat.mod_lt _ (by decide))

/-- The zone of the subnet at a position; after the last letter the first one comes again. -/
def zoneAt? (region : String) (subnets : List String) (position : Nat) : Option AvailabilityZone := do
  let subnet ← subnets[position]?
  let letter ← zoneLetters[position % 26]?
  return ⟨region.push letter, subnet⟩

theorem getElem?_zonesFrom
    (region : String)
    (start position : Nat)
    (subnets : List String) :
    (zonesFrom region start subnets)[position]? =
      subnets[position]?.map fun subnet => ⟨region.push (zoneLetter (start + position)), subnet⟩ := by
  induction subnets generalizing start position with
  | nil => simp [zonesFrom]
  | cons subnet rest ih =>
      cases position with
      | zero => simp [zonesFrom]
      | succ position => simp [zonesFrom, ih, Nat.add_assoc, Nat.add_comm 1]

theorem getElem?_zonesOf
    (region : String)
    (subnets : List String)
    (position : Nat) :
    (zonesOf region subnets)[position]? = zoneAt? region subnets position := by
  rw [zonesOf, getElem?_zonesFrom, zoneAt?, getElem?_zoneLetters, Nat.zero_add]
  cases subnets[position]? with
  | none => rfl
  | some subnet => rfl

example : (zonesOf "eu-west-1" (List.replicate 27 "subnet-a"))[26]? =
    some ⟨"eu-west-1a", "subnet-a"⟩ := by decide

end LoadBalancer

/-! ## Comparing subnets -/

namespace Convergence

theorem subnetsDiffer_equivalence :
    Equivalence fun left right => subnetsDiffer left right = false where
  refl := subnetsDiffer_self
  symm := by
    intro left right same
    rw [subnetsDiffer_eq_false_iff] at same ⊢
    exact fun subnet => (same subnet).symm
  trans := by
    intro left middle right same sameToo
    rw [subnetsDiffer_eq_false_iff] at same sameToo ⊢
    exact fun subnet => (same subnet).trans (sameToo subnet)

/-- Order and repetition make no difference. -/
theorem subnetsDiffer_congr
    {left left' right right' : List String}
    (sameLeft : SameSubnets left left')
    (sameRight : SameSubnets right right') :
    subnetsDiffer left right = subnetsDiffer left' right' := by
  have sameIff : subnetsDiffer left right = false ↔ subnetsDiffer left' right' = false := by
    rw [subnetsDiffer_eq_false_iff, subnetsDiffer_eq_false_iff]
    exact forall_congr' fun subnet => iff_congr (sameLeft subnet) (sameRight subnet)
  rw [Bool.eq_iff_iff, ← Bool.not_eq_false, ← Bool.not_eq_false, sameIff]

end Convergence

/-! ## Subnets of load balancers -/

namespace CloudTables

variable {tables after : CloudTables} {balancer : LoadBalancer} {arn : String}

/-- Under a handle there is a load balancer that is attached to just these subnets, in this order, so that
they do not have to be set for any list of the same elements. -/
def HasSubnets (tables : CloudTables) (arn : String) (subnets : List String) : Prop :=
  ∃ balancer, tables.loadBalancers.lookup arn = some balancer ∧ balancer.subnets = subnets ∧
    ∀ desired, Convergence.SameSubnets subnets desired →
      Convergence.subnetsDiffer balancer.subnets desired = false

theorem hasSubnets_of_lookup
    (stored : tables.loadBalancers.lookup arn = some balancer) :
    tables.HasSubnets arn balancer.subnets :=
  ⟨balancer, stored, rfl, fun desired => (Convergence.subnetsDiffer_eq_false_iff _ desired).mpr⟩

/-- What is built is attached to the subnets that were given, and so is what is stored then. -/
theorem hasSubnets_build
    (tables : CloudTables)
    (name : String)
    (scheme : Scheme)
    (ipAddressType : IpAddressType)
    (subnets : List String) :
    (tables.build name scheme ipAddressType subnets).1.subnets = subnets ∧
      (tables.build name scheme ipAddressType subnets).2.HasSubnets
        (tables.build name scheme ipAddressType subnets).1.arn subnets := by
  have built : (tables.build name scheme ipAddressType subnets).1.subnets = subnets :=
    LoadBalancer.map_subnetId_zonesOf tables.region subnets
  have stored := hasSubnets_of_lookup (lookup_build tables name scheme ipAddressType subnets)
  rw [built] at stored
  exact ⟨built, stored⟩

/-- Creation succeeds where it may, and then the load balancer is attached to the subnets of the request. -/
theorem hasSubnets_create
    {request : CreateRequest}
    (notEmpty : request.subnets ≠ [])
    (absent : tables.findByName request.name = none) :
    ∃ balancer after, tables.perform (.createLoadBalancer request) = .ok (balancer, after) ∧
      balancer.subnets = request.subnets ∧ after.HasSubnets balancer.arn request.subnets := by
  have built := hasSubnets_build tables request.name request.scheme request.ipAddressType request.subnets
  exact ⟨_, _, create_eq_ok_iff.mpr ⟨notEmpty, absent, rfl⟩, built.1, built.2⟩

/-- To set the subnets of a load balancer attaches it to them. -/
theorem hasSubnets_setSubnets
    (stored : tables.loadBalancers.lookup arn = some balancer)
    (subnets : List String) :
    ∃ after, tables.perform (.setSubnets arn subnets) = .ok ((), after) ∧
      after.HasSubnets arn subnets := by
  let moved : LoadBalancer := { balancer with zones := LoadBalancer.zonesOf tables.region subnets }
  have attached : moved.subnets = subnets :=
    LoadBalancer.map_subnetId_zonesOf tables.region subnets
  refine ⟨{ tables with loadBalancers := tables.loadBalancers.insert arn moved },
    setSubnets_eq_ok_iff.mpr ⟨balancer, stored, rfl⟩, ?_⟩
  rw [← attached]
  exact hasSubnets_of_lookup ((Table.lookup_insert _ _ _ _).trans (if_pos rfl))

/-! ## What is kept of subnets -/

/-- Subnets are given back as they were, and compared by their elements. -/
structure KeepsSubnets (tables : CloudTables) : Prop where
  /-- There is one zone for each subnet, in the order of the subnets. -/
  zones :
    ∀ region subnets position,
      (LoadBalancer.zonesOf region subnets)[position]? = LoadBalancer.zoneAt? region subnets position
  givesBack :
    ∀ (balancer : LoadBalancer) region subnets,
      { balancer with zones := LoadBalancer.zonesOf region subnets }.subnets = subnets
  seeded :
    ∀ name scheme ipAddressType subnets,
      (tables.build name scheme ipAddressType subnets).1.subnets = subnets ∧
        (tables.build name scheme ipAddressType subnets).2.HasSubnets
          (tables.build name scheme ipAddressType subnets).1.arn subnets
  created :
    ∀ request : CreateRequest, request.subnets ≠ [] → tables.findByName request.name = none →
      ∃ balancer after, tables.perform (.createLoadBalancer request) = .ok (balancer, after) ∧
        balancer.subnets = request.subnets ∧ after.HasSubnets balancer.arn request.subnets
  changed :
    ∀ arn balancer subnets, tables.loadBalancers.lookup arn = some balancer →
      ∃ after, tables.perform (.setSubnets arn subnets) = .ok ((), after) ∧
        after.HasSubnets arn subnets
  differ_iff :
    ∀ current desired, Convergence.subnetsDiffer current desired = false ↔
      Convergence.SameSubnets current desired
  orderless :
    ∀ current current' desired desired', Convergence.SameSubnets current current' →
      Convergence.SameSubnets desired desired' →
        Convergence.subnetsDiffer current desired = Convergence.subnetsDiffer current' desired'
  equivalence : Equivalence fun left right => Convergence.subnetsDiffer left right = false

/-- Whatever the cloud keeps, and however many subnets there are, none of them is lost. -/
theorem keepsSubnets
    (tables : CloudTables) :
    tables.KeepsSubnets where
  zones := LoadBalancer.getElem?_zonesOf
  givesBack := fun _ region subnets => LoadBalancer.map_subnetId_zonesOf region subnets
  seeded := hasSubnets_build tables
  created := fun _ notEmpty absent => hasSubnets_create notEmpty absent
  changed := fun _ _ subnets stored => hasSubnets_setSubnets stored subnets
  differ_iff := Convergence.subnetsDiffer_eq_false_iff
  orderless := fun _ _ _ _ => Convergence.subnetsDiffer_congr
  equivalence := Convergence.subnetsDiffer_equivalence

end CloudTables

end IngressConvergence
