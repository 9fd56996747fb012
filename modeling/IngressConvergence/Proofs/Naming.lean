import IngressConvergence.Naming

/-!
# When two ingresses share a name

A name is cut, so two ingresses can have the names of their load balancers in common.  The digest
that follows the cut keeps names apart only where it reads different texts, and it reads the namespace
and the name of an ingress without anything between them.  Text may therefore move from the start of
the name to the end of the namespace and the digest stays as it is.

`NamingPolicy.loadBalancerName_eq_iff` says exactly when two ingresses share a name: the digests of
different texts agree in four digits behind the same cut, or text was moved where the name does not
show it.
-/

namespace IngressConvergence

/-! ## Digests -/

namespace Digest

theorem length_md5
    (message : List UInt8) :
    (md5 message).length = 16 := by
  simp [md5, bytesOf]

theorem length_ofText
    (text : String) :
    (ofText text).length = 32 := by
  simp [ofText, List.length_flatMap, hexDigits, List.map_const', length_md5]

end Digest

namespace NamingPolicy

variable {policy : NamingPolicy} {key other : IngressKey} {moved : String}

/-! ## The parts of a name -/

@[simp]
theorem length_digestDigits
    (key : IngressKey) :
    (digestDigits key).length = 4 := by
  simp [digestDigits, Digest.length_ofText]

/-- Names are equal if their cut bodies and their digits are. -/
theorem loadBalancerName_eq_iff_parts
    (policy : NamingPolicy)
    (key other : IngressKey) :
    policy.loadBalancerName key = policy.loadBalancerName other ↔
      (policy.uncutBody key).take longestBody = (policy.uncutBody other).take longestBody ∧
        digestDigits key = digestDigits other := by
  rw [loadBalancerName, loadBalancerName, String.ofList_inj]
  constructor
  · intro same
    rcases List.append_inj' same (by simp) with ⟨sameBody, sameEnd⟩
    exact ⟨sameBody, (List.cons.inj sameEnd).2⟩
  · rintro ⟨sameBody, sameDigits⟩
    rw [sameBody, sameDigits]

theorem kept_append
    (first second : String) :
    kept (first ++ second) = kept first ++ kept second := by
  simp [kept]

theorem hyphen_not_mem_kept
    (text : String) :
    '-' ∉ kept text := by
  intro member
  have isKept := (List.mem_filter.mp member).2
  revert isKept
  decide

/-! ## Text that moves between namespace and name -/

/-- One key is another with some text moved from the start of its name to the end of its
namespace. -/
structure MovesText
    (key other : IngressKey)
    (moved : String) : Prop where
  namespaceName : other.namespaceName = key.namespaceName ++ moved
  name : key.name = moved ++ other.name

/-- Two keys have one text under the digest exactly if text was moved, from either to the other. -/
theorem digestSource_eq_iff
    (key other : IngressKey) :
    digestSource key = digestSource other ↔
      ∃ moved, MovesText key other moved ∨ MovesText other key moved := by
  constructor
  · intro same
    have sameLists := congrArg String.toList same
    simp only [digestSource, String.toList_append] at sameLists
    rcases List.append_eq_append_iff.mp sameLists with
      ⟨moved, longer, shorter⟩ | ⟨moved, longer, shorter⟩
    · refine ⟨String.ofList moved, .inl ⟨?_, ?_⟩⟩
      · exact String.toList_inj.mp (by simpa using longer)
      · exact String.toList_inj.mp (by simpa using shorter)
    · refine ⟨String.ofList moved, .inr ⟨?_, ?_⟩⟩
      · exact String.toList_inj.mp (by simpa using longer)
      · exact String.toList_inj.mp (by simpa using shorter)
  · rintro ⟨moved, forth | back⟩
    · rw [digestSource, digestSource, forth.namespaceName, forth.name, String.append_assoc]
    · rw [digestSource, digestSource, back.namespaceName, back.name, String.append_assoc]

/-- The name of a load balancer does not show that text was moved: the cut comes before the end of
the namespace, or none of the text may stand in a name. -/
def HidesMove
    (policy : NamingPolicy)
    (key : IngressKey)
    (moved : String) : Prop :=
  longestBody ≤ (hyphenated policy.namePrefix).length + 1 + (kept key.namespaceName).length ∨
    kept moved = []

/-- Of two texts that differ in where a hyphen stands, the same is left by a cut that comes before
both places, or if the places are the same. -/
theorem take_hyphen_moved_iff
    (front between rest : List Char)
    (noHyphen : '-' ∉ between)
    (length : Nat) :
    (front ++ '-' :: (between ++ rest)).take length =
        (front ++ (between ++ '-' :: rest)).take length ↔
      length ≤ front.length ∨ between = [] := by
  rw [List.take_append, List.take_append, List.append_right_inj]
  cases beyond : length - front.length with
  | zero => simp [Nat.sub_eq_zero_iff_le.mp beyond]
  | succ visible =>
      have notCut : ¬ length ≤ front.length := by omega
      cases between with
      | nil => simp
      | cons first others =>
          -- The cut leaves the hyphen in one text and the first of what is between in the other.
          have differs : '-' ≠ first := fun same => noHyphen (same ▸ List.mem_cons_self)
          simp [notCut, differs]

/-- Where text was moved, the cut bodies of the names agree exactly if they hide it. -/
theorem MovesText.take_uncutBody_eq_iff
    (moves : MovesText key other moved)
    (policy : NamingPolicy) :
    (policy.uncutBody key).take longestBody = (policy.uncutBody other).take longestBody ↔
      policy.HidesMove key moved := by
  have whole := take_hyphen_moved_iff
    (hyphenated policy.namePrefix ++ '-' :: kept key.namespaceName) (kept moved) (kept other.name)
    (hyphen_not_mem_kept moved) longestBody
  rw [uncutBody, uncutBody, moves.namespaceName, moves.name, kept_append, kept_append, HidesMove]
  simpa [Nat.add_assoc, Nat.add_comm 1] using whole

/-! ## Shared names -/

/-- Two ingresses share a name exactly if the digests of different texts agree behind the same cut,
or if text was moved between namespace and name and the name hides it. -/
theorem loadBalancerName_eq_iff
    (policy : NamingPolicy)
    (key other : IngressKey) :
    policy.loadBalancerName key = policy.loadBalancerName other ↔
      digestSource key ≠ digestSource other ∧ digestDigits key = digestDigits other ∧
          (policy.uncutBody key).take longestBody = (policy.uncutBody other).take longestBody ∨
        ∃ moved,
          MovesText key other moved ∧ policy.HidesMove key moved ∨
            MovesText other key moved ∧ policy.HidesMove other moved := by
  rw [loadBalancerName_eq_iff_parts]
  constructor
  · rintro ⟨sameBody, sameDigits⟩
    by_cases sameSource : digestSource key = digestSource other
    · rcases (digestSource_eq_iff key other).mp sameSource with ⟨moved, forth | back⟩
      · exact .inr ⟨moved, .inl ⟨forth, (forth.take_uncutBody_eq_iff policy).mp sameBody⟩⟩
      · exact .inr ⟨moved, .inr ⟨back, (back.take_uncutBody_eq_iff policy).mp sameBody.symm⟩⟩
    · exact .inl ⟨sameSource, sameDigits, sameBody⟩
  · rintro (⟨-, sameDigits, sameBody⟩ | ⟨moved, ⟨forth, hidden⟩ | ⟨back, hidden⟩⟩)
    · exact ⟨sameBody, sameDigits⟩
    · have sameSource := (digestSource_eq_iff key other).mpr ⟨moved, .inl forth⟩
      constructor
      · exact (forth.take_uncutBody_eq_iff policy).mpr hidden
      · rw [digestDigits, digestDigits, sameSource]
    · have sameSource := (digestSource_eq_iff key other).mpr ⟨moved, .inr back⟩
      constructor
      · exact ((back.take_uncutBody_eq_iff policy).mpr hidden).symm
      · rw [digestDigits, digestDigits, sameSource]

/-- Two namespaces of which one is the plural of the other can have ingresses that share a name: the
digest reads one text for both. -/
theorem storefronts_share_name :
    ¬ ∀ (policy : NamingPolicy) (key other : IngressKey),
      key ≠ other → policy.loadBalancerName key = policy.loadBalancerName other →
        digestSource key ≠ digestSource other := by
  intro distinguishes
  let key : IngressKey := ⟨"customer-facing-storefront", "sapi"⟩
  let other : IngressKey := ⟨"customer-facing-storefronts", "api"⟩
  have moves : MovesText key other "s" := ⟨by decide, by decide⟩
  have hidden : (⟨"k8s", none⟩ : NamingPolicy).HidesMove key "s" := .inl (by decide)
  have sameSource := (digestSource_eq_iff key other).mpr ⟨"s", .inl moves⟩
  refine distinguishes ⟨"k8s", none⟩ key other (by decide) ?_ sameSource
  apply (loadBalancerName_eq_iff_parts _ _ _).mpr
  constructor
  · exact (moves.take_uncutBody_eq_iff _).mpr hidden
  · rw [digestDigits, digestDigits, sameSource]

end NamingPolicy

end IngressConvergence
