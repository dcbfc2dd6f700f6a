import TypedRpc.Proofs.Compiler.FirstMeeting
import TypedRpc.Proofs.Compiler.References
import TypedRpc.Proofs.Descriptor.Trail

/-!
# Nesting in successful runs

On a trail on which everything is written out, a run that succeeds goes through every composite. So none of these
trails is nested deeper than the limit, wherever among the reached descriptors it begins: the fields of each
composite that is defined by name are compiled at some point, though perhaps not where the trail comes by.
-/

namespace TypedRpc

open TypedRpc.TypeScript

namespace Descriptor

/-- A trail on which nothing is defined by name. -/
def WrittenOut (table : SlotTable) (ds : List Descriptor) : Prop :=
  Trail table [] ds ∧ ∀ d ∈ ds, d.path = []

/-- No trail from here on which everything is written out is nested deeper than this. -/
def NestedWithin (table : SlotTable) (limit : Nat) (d : Descriptor) : Prop :=
  ∀ rest, WrittenOut table (d :: rest) → nesting (d :: rest) ≤ limit

variable {table : SlotTable} {limit : Nat} {d inner : Descriptor} {ds rest : List Descriptor}

theorem WrittenOut.head (h : WrittenOut table (d :: rest)) : d.path = [] :=
  h.2 d List.mem_cons_self

/-- The second descriptor on such a trail is a part of the first one, and a trail begins with it too. -/
theorem WrittenOut.next (h : WrittenOut table (d :: inner :: rest)) :
    inner ∈ d.parts table ∧ WrittenOut table (inner :: rest) := by
  obtain ⟨htrail, hpaths⟩ := h
  cases htrail with
  | pass _ hpart next => exact ⟨hpart, next, fun e he => hpaths e (List.mem_cons_of_mem _ he)⟩
  | enter hpath => exact absurd (hpaths d List.mem_cons_self) hpath

theorem WrittenOut.cons (hpath : d.path = []) (hpart : inner ∈ d.parts table)
    (h : WrittenOut table (inner :: rest)) : WrittenOut table (d :: inner :: rest) := by
  refine ⟨.pass hpath hpart h.1, fun e he => ?_⟩
  rcases List.mem_cons.mp he with rfl | he
  · exact hpath
  · exact h.2 e he

theorem NestedWithin.mono {limit' : Nat} (hle : limit ≤ limit') (h : NestedWithin table limit d) :
    NestedWithin table limit' d :=
  fun rest hrest => Nat.le_trans (h rest hrest) hle

theorem NestedWithin.part (h : NestedWithin table limit d) (hpath : d.path = []) (hpart : inner ∈ d.parts table) :
    NestedWithin table limit inner :=
  fun rest hrest => Nat.le_trans (nesting_le_cons d (inner :: rest)) (h (inner :: rest) (hrest.cons hpath hpart))

theorem nestedWithin_of_path (hpath : d.path ≠ []) : NestedWithin table limit d :=
  fun _ hrest => absurd hrest.head hpath

theorem nestedWithin_of_layer (hcomposite : d.isComposite = false)
    (h : ∀ part ∈ d.parts table, NestedWithin table limit part) : NestedWithin table limit d := by
  intro rest hrest
  rw [nesting_cons_of_not_composite hcomposite]
  cases rest with
  | nil => exact Nat.zero_le _
  | cons part rest =>
    obtain ⟨hpart, hnext⟩ := hrest.next
    exact h part hpart rest hnext

theorem nestedWithin_of_inline (hcomposite : d.isComposite = true) (hpath : d.path = [])
    (h : ∀ part ∈ d.parts table, NestedWithin table limit part) : NestedWithin table (limit + 1) d := by
  intro rest hrest
  rw [nesting_cons_of_composite hcomposite hpath]
  cases rest with
  | nil => exact Nat.succ_le_succ (Nat.zero_le _)
  | cons part rest =>
    obtain ⟨hpart, hnext⟩ := hrest.next
    exact Nat.succ_le_succ (h part hpart rest hnext)

theorem nestedWithin_cons_of_layer (hcomposite : d.isComposite = false) (hparts : d.parts table = [inner])
    (h : ∀ e ∈ inner :: ds, NestedWithin table limit e) : ∀ e ∈ d :: ds, NestedWithin table limit e := by
  obtain ⟨hinner, hds⟩ := List.forall_mem_cons.mp h
  refine List.forall_mem_cons.mpr ⟨nestedWithin_of_layer hcomposite ?_, hds⟩
  rw [hparts]
  exact List.forall_mem_singleton.mpr hinner

end Descriptor

namespace Compiler.Compiles

open Descriptor

variable {table : SlotTable} {roots ds : List Descriptor} {ts : List TypeExpr} {c c' : Compiler}

/-- What is compiled is nested no deeper than the room that is left. -/
theorem nestedWithin (h : Compiles table c ds ts c') (hdepth : c.inlineDepth ≤ inlineLimit) :
    ∀ d ∈ ds, NestedWithin table (inlineLimit - c.inlineDepth) d := by
  induction h with
  | nil => exact nofun
  | @keyword c _ d word _ _ hword _ ih =>
    refine List.forall_mem_cons.mpr ⟨nestedWithin_of_layer (isComposite_of_keyword hword) ?_, ih hdepth⟩
    rw [parts_of_keyword hword]
    exact nofun
  | sequence _ ih | optional _ ih | wrapper _ ih => exact nestedWithin_cons_of_layer rfl rfl (ih hdepth)
  | @inline c _ _ d _ _ _ hcomposite hpath hlt body _ ihbody ih =>
    have hgrows := body.grows.inline
    refine List.forall_mem_cons.mpr ⟨?_, ?_⟩
    · have hparts := ihbody hlt
      have hroom : inlineLimit - (c.inlineDepth + 1) + 1 = inlineLimit - c.inlineDepth := by omega
      exact hroom ▸ nestedWithin_of_inline hcomposite hpath hparts
    · rw [← hgrows.inlineDepth] at hdepth ⊢
      exact ih hdepth
  | known hpath hassign _ _ ih =>
    have hgrows := Grows.of_assignName hassign
    rw [← hgrows.inlineDepth] at hdepth ⊢
    exact List.forall_mem_cons.mpr ⟨nestedWithin_of_path hpath, ih hdepth⟩
  | @expand _ _ _ _ d name types _ _ hpath hassign _ _ body _ _ ih =>
    have hgrows := (Grows.of_assignName hassign).trans
      (body.grows.complete ⟨name, Field.members (d.fields table) types⟩)
    rw [← hgrows.inlineDepth] at hdepth ⊢
    exact List.forall_mem_cons.mpr ⟨nestedWithin_of_path hpath, ih hdepth⟩

/-- A new definition belongs to a composite that is reached, and the parts of it are nested within the limit. -/
theorem definition_nestedWithin (h : Compiles table c ds ts c') (hds : ∀ d ∈ ds, ReachedFrom table roots d)
    (hdepth : c.inlineDepth ≤ inlineLimit) :
    ∀ definition ∈ c'.definitions, definition ∈ c.definitions ∨
      ∃ e, NamedFrom table roots e ∧ c'.names.lookup e.key = some definition.name ∧
        ∀ part ∈ e.parts table, NestedWithin table inlineLimit part := by
  induction h with
  | nil => exact fun _ hd => .inl hd
  | keyword _ _ ih => exact ih (List.forall_mem_cons.mp hds).2 hdepth
  | sequence _ ih | optional _ ih | wrapper _ ih => exact ih (.open hds) hdepth
  | inline _ _ hlt body rest ihbody ih =>
    have hgrows := body.grows.inline
    intro definition hd
    rcases ih (List.forall_mem_cons.mp hds).2 (hgrows.inlineDepth ▸ hdepth) definition hd with hd | hnew
    · refine (ihbody (hds _ List.mem_cons_self).part hlt definition hd).imp_right ?_
      rintro ⟨e, he, hname, hparts⟩
      exact ⟨e, he, rest.grows.lookup_names hname, hparts⟩
    · exact .inr hnew
  | known _ hassign _ _ ih =>
    have hgrows := Grows.of_assignName hassign
    have hrest := ih (List.forall_mem_cons.mp hds).2 (hgrows.inlineDepth ▸ hdepth)
    rwa [definitions_of_assignName hassign] at hrest
  | @expand c c₁ c₂ c' d name types _ _ hpath hassign _ _ body rest ihbody ih =>
    have hassigned := Grows.of_assignName hassign
    have hcomplete := body.grows.complete ⟨name, Field.members (d.fields table) types⟩
    have hdepth₁ : (c₁.enter d.key).inlineDepth ≤ inlineLimit := hassigned.inlineDepth ▸ hdepth
    have hd := hds d List.mem_cons_self
    intro definition hdefinition
    rcases ih (List.forall_mem_cons.mp hds).2 (hcomplete.inlineDepth ▸ hdepth₁) definition hdefinition with
      hdefinition | hnew
    · rcases mem_define hdefinition with hdefinition | rfl
      · rw [← definitions_of_assignName hassign]
        refine (ihbody hd.part hdepth₁ definition hdefinition).imp_right ?_
        rintro ⟨e, he, hname, hparts⟩
        have hgrows : Grows (c₂.leave d.key) c' := (Grows.define _ _).trans rest.grows
        exact ⟨e, he, hgrows.lookup_names hname, hparts⟩
      · have hname : c'.names.lookup d.key = some name :=
          (hcomplete.trans rest.grows).lookup_names (lookup_of_assignName hassign)
        refine .inr ⟨d, ⟨hpath, hd⟩, hname, fun part hpart => ?_⟩
        exact (body.nestedWithin hdepth₁ part hpart).mono (Nat.sub_le ..)
    · exact .inr hnew

/-- A run that succeeds has gone through everything that is reached, and nothing there is nested too deep. -/
theorem reached_nestedWithin (h : Compiles table .empty roots ts c) (hconsistent : Consistent table roots)
    {d : Descriptor} (hd : ReachedFrom table roots d) : NestedWithin table inlineLimit d := by
  obtain ⟨root, hroot, hreaches⟩ := hd
  induction hreaches with
  | refl => exact h.nestedWithin (Nat.zero_le _) root hroot
  | @tail whole part hwhole hpart ih =>
    by_cases hpath : whole.path = []
    · exact ih.part hpath hpart
    · -- the definition of the key was made of a composite with the same fields
      have hwhole' : NamedFrom table roots whole := ⟨hpath, root, hroot, hwhole⟩
      obtain ⟨met, htracks, hwalk⟩ := h.exists_walk
      have hmet : (whole.key, whole.fields table) ∈ met := (hwalk.mem_iff hconsistent).mpr ⟨whole, hwhole', rfl⟩
      obtain ⟨definition, hdefinition, hname⟩ :=
        htracks.exists_definition h.grows.processing (List.mem_map_of_mem hmet)
      rcases h.definition_nestedWithin reachedFrom_self (Nat.zero_le _) definition hdefinition with
        hnone | ⟨e, he, hname', hparts⟩
      · exact absurd hnone List.not_mem_nil
      · have hkey : e.key = whole.key := (h.coherent .empty).injective hname' hname
        have hfields := hconsistent e whole he hwhole' hkey
        rw [parts_eq_types (isComposite_of_path hpath), ← hfields,
          ← parts_eq_types (isComposite_of_path he.1)] at hpart
        exact hparts part hpart

end Compiler.Compiles

end TypedRpc
