import TypedRpc.Proofs.Text.Split
import TypedRpc.TypeScript.TypeName

/-!
# Paths and keys

A compiler knows a qualified name by the key of its path. When no segment holds a colon, no other path has the same
key.
-/

namespace TypedRpc.TypeScript

open TypedRpc.Text

/-! ## Segments -/

/-- A segment is not empty and holds no dot. -/
theorem mem_segments {qualified segment : String} (h : segment ∈ segments qualified) :
    segment.toList ≠ [] ∧ '.' ∉ segment.toList := by
  simp only [segments, List.mem_filterMap, List.mem_flatMap] at h
  obtain ⟨piece, ⟨part, _, hpiece⟩, hsegment⟩ := h
  split at hsegment
  · cases hsegment
  · rename_i hne
    obtain rfl := Option.some.inj hsegment
    refine ⟨by simpa using hne, fun hdot => ?_⟩
    have := not_separator_of_mem_splitWhere hpiece '.' (by simpa using hdot)
    simp at this

/-- The path holds no colon, as every path does that the names of modules and types make up. -/
def ColonFree (path : List String) : Prop :=
  ∀ segment ∈ path, ':' ∉ segment.toList

instance (path : List String) : Decidable (ColonFree path) :=
  inferInstanceAs (Decidable (∀ segment ∈ path, ':' ∉ segment.toList))

/-- A segment holds no pair of colons. -/
theorem not_colons_infix_of_mem {qualified segment : String} (h : segment ∈ segments qualified) :
    ¬ [':', ':'] <:+: segment.toList := by
  simp only [segments, List.mem_filterMap, List.mem_flatMap] at h
  obtain ⟨piece, ⟨part, hpart, hpiece⟩, hsegment⟩ := h
  split at hsegment
  · cases hsegment
  · obtain rfl := Option.some.inj hsegment
    rw [String.toList_ofList]
    exact fun hcolons => not_pair_infix_of_mem_splitPairs hpart (hcolons.trans (infix_of_mem_splitWhere hpiece))

theorem ne_empty_of_mem_segments {qualified segment : String} (h : segment ∈ segments qualified) : segment ≠ "" :=
  fun hempty => (mem_segments h).1 (congrArg String.toList hempty)

theorem keyOf_eq_empty {qualified : String} : keyOf (segments qualified) = "" ↔ segments qualified = [] :=
  join_eq_empty fun _ => ne_empty_of_mem_segments

/-- A name of a qualified name is not empty. -/
theorem scopedName?_ne_empty {qualified name : String} {extra : Nat}
    (h : scopedName? (segments qualified) extra = some name) : name ≠ "" := by
  have hsegments : ∀ segment ∈ segments qualified, segment ≠ "" := fun _ => ne_empty_of_mem_segments
  unfold scopedName? at h
  split at h
  · cases h
  · rename_i only hpath
    split at h
    · cases h
      exact hsegments name (by simp [hpath])
    · cases h
  · split at h
    · rename_i hlength
      cases h
      rw [ne_eq, join_eq_empty fun segment hsegment => hsegments segment (List.mem_of_mem_drop hsegment),
        List.drop_eq_nil_iff]
      omega
    · cases h

/-- A path without colons has its key for itself. -/
theorem keyOf_inj {p q : String} (hp : ColonFree (segments p)) :
    keyOf (segments p) = keyOf (segments q) ↔ segments p = segments q := by
  refine ⟨fun h => ?_, fun h => by rw [h]⟩
  by_cases hnil : segments p = []
  · rw [hnil] at h ⊢
    exact (keyOf_eq_empty.mp h.symm).symm
  · have hnil' : segments q ≠ [] := by
      intro hq
      rw [hq] at h
      exact hnil (keyOf_eq_empty.mp h)
    have hkeys := congrArg String.toList h
    simp only [keyOf, join, String.toList_intercalate] at hkeys
    have hpieces : ∀ piece ∈ (segments p).map String.toList, piece ≠ [] ∧ ':' ∉ piece := by
      intro piece hpiece
      obtain ⟨segment, hsegment, rfl⟩ := List.mem_map.mp hpiece
      exact ⟨(mem_segments hsegment).1, hp segment hsegment⟩
    have hothers : ∀ piece ∈ (segments q).map String.toList, ¬ [':', ':'] <:+: piece := by
      intro piece hpiece
      obtain ⟨segment, hsegment, rfl⟩ := List.mem_map.mp hpiece
      exact not_colons_infix_of_mem hsegment
    exact (List.map_inj_right fun _ _ => String.toList_inj.mp).mp
      (intercalate_pairs_inj hpieces hothers (by simpa using hnil) (by simpa using hnil') hkeys)

/-- Segments are cut off at dots and at pairs of colons alike. -/
example : segments "pkg.T" = segments "pkg::T" := by decide

/-- A single colon belongs to its segment, and different paths can then have one key. -/
example : keyOf (segments "a:.b") = keyOf (segments "a.:b") := by decide

end TypedRpc.TypeScript
