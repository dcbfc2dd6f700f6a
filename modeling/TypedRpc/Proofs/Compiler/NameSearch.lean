import TypedRpc.Proofs.Compiler.NameTable
import TypedRpc.Proofs.Text.Split

/-!
# The search for a name

A path that is met for the first time is given the first of its names that nobody owns: the scoped names are tried
first, the shortest before the longer ones, and then the numbered names, of which there is no end. A numbered name is
longer than every scoped one, so it is given only after all of those have been tried. Main statement:
`assignName_firstFree`.
-/

namespace TypedRpc.Compiler

open TypedRpc.Text TypedRpc.TypeScript

/-- A scoped name is an end of the longest one. -/
theorem scopedName_suffix {segments : List String} {extra : Nat} {name : String}
    (h : scopedName? segments extra = some name) : name.toList <:+ (join "_" segments).toList := by
  unfold scopedName? at h
  split at h
  · cases h
  · split at h
    · obtain rfl := Option.some.inj h
      rw [join, String.intercalate_singleton]
    · cases h
  · split at h
    · obtain rfl := Option.some.inj h
      exact suffix_join _ _ _
    · cases h

theorem numberedName_ne_scopedName {segments : List String} {extra i : Nat} {name : String}
    (h : scopedName? segments extra = some name) : name ≠ numberedName segments i := by
  rintro rfl
  have hlength := (scopedName_suffix h).length_le
  simp only [numberedName, String.toList_append, List.length_append] at hlength
  have hunderscore : "_".toList.length = 1 := rfl
  omega

/-- **The search for a name ends at the first free one.** Whatever names are owned, a path that has no name yet is given
a name that nobody owns. It is the shortest scoped name that is free or else the first numbered name that is free, and
before that one no more numbered names are tried than there are owned names, so nothing is left to a last resort. A
numbered name is given if and only if every scoped name of the path is owned. -/
theorem assignName_firstFree {c : Compiler} {segments : List String} (hnew : c.names.lookup (keyOf segments) = none) :
    ∃ name, c.assignName segments = (name, c.give (keyOf segments) name) ∧ name ∉ c.ownedNames ∧
      ((∃ extra, scopedName? segments extra = some name ∧
          ∀ fewer < extra, ∀ shorter ∈ scopedName? segments fewer, shorter ∈ c.ownedNames) ∨
        ∃ i ≤ c.ownedNames.card, name = numberedName segments i ∧
          ∀ j < i, numberedName segments j ∈ c.ownedNames) ∧
      ((∃ i, name = numberedName segments i) ↔
        ∀ extra, ∀ longer ∈ scopedName? segments extra, longer ∈ c.ownedNames) := by
  refine ⟨c.freshName segments, assignName_new hnew, isFree_iff_notMem.mp (freshName_isFree c segments), ?_⟩
  rcases freshName_cases c segments with ⟨extra, hname, hfree, hfewer⟩ | ⟨hall, i, hi, hname, -, hbefore⟩
  · refine ⟨.inl ⟨extra, hname, hfewer⟩, iff_of_false ?_ ?_⟩
    · rintro ⟨i, hnumbered⟩
      exact numberedName_ne_scopedName hname hnumbered
    · intro hall
      exact hfree (hall extra _ hname)
  · exact ⟨.inr ⟨i, hi, hname, hbefore⟩, iff_of_true ⟨i, hname⟩ hall⟩

/-- The one scoped name of `x::T` and the first numbered one are owned by types that have these names outright. -/
theorem assignName_firstFree_third :
    let c := ((Compiler.empty.assignName ["x_T"]).2.assignName ["x_T_2"]).2
    c.names.lookup (keyOf ["x", "T"]) = none ∧ c.ownedNames = {"x_T", "x_T_2"} ∧
    ∃ c', c.assignName ["x", "T"] = ("x_T_3", c') ∧ "x_T_3" ∉ c.ownedNames ∧
      ∀ extra, ∀ longer ∈ scopedName? ["x", "T"] extra, longer ∈ c.ownedNames := by
  intro c
  have hnew : c.names.lookup (keyOf ["x", "T"]) = none := by
    decide +kernel
  have howned : c.ownedNames = {"x_T", "x_T_2"} := by
    decide +kernel
  have hname : (c.assignName ["x", "T"]).1 = numberedName ["x", "T"] 1 := by
    decide +kernel
  obtain ⟨name, hassign, hfree, -, hiff⟩ := assignName_firstFree hnew
  rw [hassign] at hname
  obtain rfl : name = numberedName ["x", "T"] 1 := hname
  exact ⟨hnew, howned, _, hassign, hfree, hiff.mp ⟨1, rfl⟩⟩

end TypedRpc.Compiler
