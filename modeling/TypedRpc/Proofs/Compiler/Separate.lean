import TypedRpc.Proofs.Compiler.HeadStart
import TypedRpc.Proofs.Compiler.Order

/-!
# Compiled apart and together

Where composites with one key agree, what a run defines are the composites that it reaches. So a run on some
descriptors is a head start for a run on others: what succeeds on a fresh compiler succeeds on a used one
(`Compiles.after`). Where names agree too, a run on a part of the descriptors names what it meets as a run on all of
them does (`Compiles.extendedBy_of_subset`), and defines the part of it that it reaches.
-/

namespace TypedRpc

namespace Descriptor

variable {table : SlotTable} {roots roots' seen ds : List Descriptor} {d : Descriptor} {key : String}

theorem Consistent.of_subset (hsubset : roots ⊆ roots') (h : Consistent table roots') : Consistent table roots :=
  fun d e hd he => h d e (hd.of_subset hsubset) (he.of_subset hsubset)

theorem Distinct.of_subset (hsubset : roots ⊆ roots') (h : Distinct table roots') : Distinct table roots :=
  fun d e hd he => h d e (hd.of_subset hsubset) (he.of_subset hsubset)

theorem Unambiguous.of_subset (hsubset : roots ⊆ roots') (h : Unambiguous table roots') : Unambiguous table roots :=
  fun d e hd he => h d e (hd.of_subset hsubset) (he.of_subset hsubset)

/-- Where composites with one key have the same fields, they reach the same keys. -/
theorem closedIn_keyFrom (hconsistent : Consistent table (seen ++ ds)) :
    Compiler.ClosedIn table ds (KeyFrom table seen) := by
  rintro d hd ⟨first, hfirst, hkey⟩ e ⟨hpath, _, hroot, hreaches⟩
  obtain rfl := List.mem_singleton.mp hroot
  rcases hreaches.cases_head with rfl | ⟨part, hpart, hrest⟩
  · exact ⟨first, hfirst, hkey⟩
  · -- what lies below the composite lies below the one with its key that was met before
    have hfields := hconsistent first _ (hfirst.of_subset (List.subset_append_left ..))
      (hd.of_subset (List.subset_append_right ..)) hkey
    rw [parts_eq_types (isComposite_of_path hd.1), ← hfields, ← parts_eq_types (isComposite_of_path hfirst.1)] at hpart
    obtain ⟨root, hroot, hbefore⟩ := hfirst.2
    exact ⟨e, ⟨hpath, root, hroot, (hbefore.tail hpart).trans hrest⟩, rfl⟩

end Descriptor

namespace Compiler

open TypedRpc.TypeScript

variable {table : SlotTable} {roots roots' seen ds : List Descriptor} {ts us : List TypeExpr} {c c' c₀ : Compiler}
  {key : String}

/-- A run defines the composites that it reaches. -/
theorem Compiles.defines_iff (h : Compiles table .empty roots ts c) (hconsistent : Descriptor.Consistent table roots) :
    c.Defines key ↔ Descriptor.KeyFrom table roots key := by
  constructor
  · intro hdefined
    rcases h.defines_new .empty (Nat.zero_le _) hdefined with ⟨_, hnone, -⟩ | hkey
    · cases hnone
    · exact hkey
  · rintro ⟨d, hd, rfl⟩
    obtain ⟨met, htracks, hwalk⟩ := h.exists_walk
    have hmet : (d.key, d.fields table) ∈ met := (hwalk.mem_iff hconsistent).mpr ⟨d, hd, rfl⟩
    obtain ⟨definition, hdefinition, hname⟩ :=
      htracks.exists_definition h.grows.processing (List.mem_map_of_mem hmet)
    exact ⟨definition.name, hname, List.mem_map_of_mem hdefinition⟩

/-- A run is a head start for what comes after it. -/
theorem Compiles.ahead_of_empty (h : Compiles table .empty seen us c₀)
    (hconsistent : Descriptor.Consistent table seen) : Ahead (Descriptor.KeyFrom table seen) .empty c₀ where
  coherent := .empty
  coherent_more := h.coherent .empty
  processing := h.grows.processing
  inlineDepth := h.grows.inlineDepth
  pending := nofun
  known := (h.defines_iff hconsistent).mpr
  same hnew := by
    refine ⟨fun hdefined => absurd ((h.defines_iff hconsistent).mp hdefined) hnew, ?_⟩
    rintro ⟨_, hnone, -⟩
    cases hnone

/-- What succeeds on a fresh compiler succeeds on a used one. -/
theorem Compiles.after (h : Compiles table .empty ds ts c) (hseen : Compiles table .empty seen us c₀)
    (hconsistent : Descriptor.Consistent table (seen ++ ds)) : ∃ vs c₁, Compiles table c₀ ds vs c₁ := by
  have hahead := hseen.ahead_of_empty (hconsistent.of_subset (List.subset_append_left ..))
  obtain ⟨vs, c₁, hrun, -⟩ := h.ahead (Descriptor.closedIn_keyFrom hconsistent) Descriptor.reachedFrom_self
    (Nat.zero_le _) hahead
  exact ⟨vs, c₁, hrun⟩

/-- A run on a part of the descriptors gives the names that a run on all of them gives. -/
theorem Compiles.extendedBy_of_subset (h : Compiles table .empty roots ts c) (h' : Compiles table .empty roots' us c')
    (hsubset : roots' ⊆ roots) (hconsistent : Descriptor.Consistent table roots)
    (hdistinct : Descriptor.Distinct table roots) (hunambiguous : Descriptor.Unambiguous table roots) :
    c'.ExtendedBy c.naming := by
  intro key name hname
  obtain ⟨d, hd, hkey, hshort⟩ := (h'.naming_iff (hconsistent.of_subset hsubset) (hdistinct.of_subset hsubset)
    (hunambiguous.of_subset hsubset)).mp hname
  exact (h.naming_iff hconsistent hdistinct hunambiguous).mpr ⟨d, hd.of_subset hsubset, hkey, hshort⟩

/-- The definitions of a run are the renderings of the composites that it reaches, under every naming that extends
its own. -/
theorem Compiles.mem_definitions_iff (h : Compiles table .empty roots ts c)
    (hconsistent : Descriptor.Consistent table roots) {naming : Naming} (hext : c.ExtendedBy naming)
    {definition : Definition} :
    definition ∈ c.definitions ↔ ∃ d, Descriptor.NamedFrom table roots d ∧ naming d.key = some definition.name ∧
      renderDefinition table naming definition.name (d.fields table) = some definition := by
  obtain ⟨met, htracks, hwalk⟩ := h.exists_walk
  rw [htracks.mem_definitions_iff_of_extendedBy h.grows.processing hext]
  constructor
  · rintro ⟨key, fields, hmet, hrest⟩
    obtain ⟨d, hd, heq⟩ := (hwalk.mem_iff hconsistent).mp hmet
    cases heq
    exact ⟨d, hd, hrest⟩
  · rintro ⟨d, hd, hrest⟩
    exact ⟨_, _, (hwalk.mem_iff hconsistent).mpr ⟨d, hd, rfl⟩, hrest⟩

end Compiler

end TypedRpc
