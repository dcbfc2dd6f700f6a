import Mathlib.Data.List.Induction
import Mathlib.Data.String.Basic
import TypedRpc.Json.Value
import TypedRpc.Proofs.KeyedList

/-!
# Canonical form

In canonical form an object has its members sorted by name and each name once; of several members of one name it is the
last that counts. With the items of arrays and everything else left as it is, this determines the form of a value level
by level. Main statement: `Value.canonical_levels`.
-/

namespace TypedRpc.Json.Value

/-! ## Setting members -/

theorem mem_setMember {name : String} {value : Value} {members : List (String × Value)} {member : String × Value}
    (h : member ∈ setMember name value members) : member.1 = name ∨ member ∈ members := by
  induction members with
  | nil => exact .inl (by rw [List.mem_singleton.mp h])
  | cons first rest ih =>
    rw [setMember] at h
    split at h
    · rcases List.mem_cons.mp h with rfl | h
      · exact .inl rfl
      · exact .inr (List.mem_cons_of_mem _ h)
    · split at h
      · rcases List.mem_cons.mp h with rfl | h
        · exact .inl rfl
        · exact .inr h
      · rcases List.mem_cons.mp h with rfl | h
        · exact .inr List.mem_cons_self
        · exact (ih h).imp_right (List.mem_cons_of_mem _)

/-- The names of the members ascend, so that each occurs once. -/
def Ascending (members : List (String × Value)) : Prop :=
  members.Pairwise fun member later => member.1 < later.1

theorem ascending_setMember {members : List (String × Value)} (h : Ascending members) (name : String) (value : Value) :
    Ascending (setMember name value members) := by
  induction members with
  | nil => exact List.pairwise_singleton _ _
  | cons first rest ih =>
    obtain ⟨hfirst, hrest⟩ := List.pairwise_cons.mp h
    rw [setMember]
    by_cases hname : name = first.1
    · rw [if_pos hname]
      exact List.pairwise_cons.mpr ⟨fun later hlater => hname ▸ hfirst later hlater, hrest⟩
    rw [if_neg hname]
    by_cases hlt : name < first.1
    · rw [if_pos hlt]
      refine List.pairwise_cons.mpr ⟨fun later hlater => ?_, h⟩
      rcases List.mem_cons.mp hlater with rfl | hlater
      · exact hlt
      · exact hlt.trans (hfirst later hlater)
    · rw [if_neg hlt]
      refine List.pairwise_cons.mpr ⟨fun later hlater => ?_, ih hrest⟩
      rcases mem_setMember hlater with hsame | hlater
      · rw [hsame]
        exact lt_of_le_of_ne (not_lt.mp hlt) (Ne.symm hname)
      · exact hfirst later hlater

theorem lookup_setMember (name : String) (value : Value) (members : List (String × Value)) (other : String) :
    (setMember name value members).lookup other = if other = name then some value else members.lookup other := by
  induction members with
  | nil => rw [setMember, lookup_cons_ite]
  | cons first rest ih =>
    rw [setMember]
    by_cases hname : name = first.1
    · rw [if_pos hname, lookup_cons_ite, lookup_cons_ite, ← hname]
      by_cases hother : other = name
      · rw [if_pos hother, if_pos hother]
      · rw [if_neg hother, if_neg hother, if_neg hother]
    · rw [if_neg hname]
      split
      · exact lookup_cons_ite _ _ _
      · rw [lookup_cons_ite, lookup_cons_ite, ih]
        by_cases hother : other = first.1
        · rw [if_pos hother, if_neg fun heq => hname (heq.symm.trans hother), if_pos hother]
        · rw [if_neg hother, if_neg hother]

/-! ## Sorting members -/

theorem sortMembers_concat (members : List (String × Value)) (member : String × Value) :
    sortMembers (members ++ [member]) = setMember member.1 member.2 (sortMembers members) := by
  simp [sortMembers]

theorem ascending_sortMembers (members : List (String × Value)) : Ascending (sortMembers members) := by
  induction members using List.reverseRecOn with
  | nil => exact List.Pairwise.nil
  | append_singleton members member ih =>
    rw [sortMembers_concat]
    exact ascending_setMember ih member.1 member.2

/-- Of several members of one name the last one counts. -/
theorem lookup_sortMembers (members : List (String × Value)) (name : String) :
    (sortMembers members).lookup name = members.reverse.lookup name := by
  induction members using List.reverseRecOn with
  | nil => rfl
  | append_singleton members member ih =>
    rw [sortMembers_concat, lookup_setMember, ih, List.reverse_concat, lookup_cons_ite]

/-! ## Levels of a value -/

theorem canonicalItems_eq (items : List Value) : canonicalItems items = items.map canonical := by
  induction items with
  | nil => rfl
  | cons item rest ih => rw [canonicalItems, ih, List.map_cons]

theorem canonicalMembers_eq (members : List (String × Value)) :
    canonicalMembers members = members.map fun member => (member.1, member.2.canonical) := by
  induction members with
  | nil => rfl
  | cons member rest ih => rw [canonicalMembers, ih, List.map_cons]

/-- The canonical form of a value, from those of the values in it. -/
theorem canonical_levels (json : Value) :
    match json with
    | .object members => ∃ sorted, json.canonical = .object sorted ∧ Ascending sorted ∧
        ∀ name, sorted.lookup name = (members.reverse.lookup name).map canonical
    | .array items => json.canonical = .array (items.map canonical)
    | _ => json.canonical = json := by
  cases json with
  | object members =>
    refine ⟨sortMembers (canonicalMembers members), by rw [canonical], ascending_sortMembers _, fun name => ?_⟩
    rw [lookup_sortMembers, canonicalMembers_eq, ← List.map_reverse, lookup_map_values]
  | array items => rw [canonical, canonicalItems_eq]
  | null | bool | integer | float | string => rw [canonical]

end TypedRpc.Json.Value
