import TypedRpc.Proofs.Compiler.FirstMeeting

/-!
# The order of descriptors

When different keys have different short names, no name is taken when a composite asks for it, so that every
composite gets its short name. When moreover composites with one key agree, what a run meets and how it names it
does not depend on the order of the descriptors, and neither do its answers and definitions.
-/

namespace TypedRpc.Compiler

open TypedRpc.TypeScript

/-- Each name in the table is the short name of a composite that is reached. -/
def Preferred (table : SlotTable) (roots : List Descriptor) (c : Compiler) : Prop :=
  ∀ key name, c.names.lookup key = some name →
    ∃ d, Descriptor.NamedFrom table roots d ∧ d.key = key ∧ d.typeName = name

section

variable {table : SlotTable} {roots ds : List Descriptor} {ts : List TypeExpr} {c c' : Compiler}

theorem Preferred.empty : Preferred table roots .empty :=
  nofun

/-- A composite gets its short name, since only its own key could have that name. -/
theorem Preferred.of_assignName (h : Preferred table roots c) (hc : c.Coherent)
    (hdistinct : Descriptor.Distinct table roots) {d : Descriptor} (hd : Descriptor.NamedFrom table roots d)
    {name : String} (hassign : c.assignName d.path = (name, c')) : Preferred table roots c' := by
  rcases assignName_cases c d.path with ⟨name', -, heq⟩ | ⟨name', hnew, -, hfresh, heq⟩
  · cases hassign.symm.trans heq
    exact h
  · cases hassign.symm.trans heq
    have hfree : c.owners.lookup d.typeName = none := by
      by_contra howned
      -- whoever owns the short name has the key of this composite, which has no name yet
      obtain ⟨key, howner⟩ := Option.ne_none_iff_exists'.mp howned
      have hnamed := hc.inverse.mpr howner
      obtain ⟨e, he, rfl, hname⟩ := h key _ hnamed
      rw [hdistinct e d he hd hname] at hnamed
      cases hnew.symm.trans hnamed
    have hshort : name = d.typeName :=
      hfresh.trans (freshName_eq_scopedName (Descriptor.scopedName?_path hd.1) (isFree_iff.mpr hfree))
    intro key other hlookup
    rcases lookup_give hlookup with hknown | ⟨rfl, rfl⟩
    · exact h key other hknown
    · exact ⟨d, hd, rfl, hshort.symm⟩

/-- A run on composites that are reached gives out short names only. -/
theorem Compiles.preferred (h : Compiles table c ds ts c') (hdistinct : Descriptor.Distinct table roots)
    (hds : ∀ d ∈ ds, Descriptor.ReachedFrom table roots d) (hc : c.Coherent)
    (hnames : Preferred table roots c) : Preferred table roots c' := by
  induction h with
  | nil => exact hnames
  | keyword _ _ ih => exact ih (List.forall_mem_cons.mp hds).2 hc hnames
  | sequence _ ih => exact ih (.open hds) hc hnames
  | optional _ ih => exact ih (.open hds) hc hnames
  | wrapper _ ih => exact ih (.open hds) hc hnames
  | inline _ _ _ body _ ihbody ih =>
    have hparts := (hds _ List.mem_cons_self).part
    have hbody := ihbody hparts (hc.withDepth _) hnames
    exact ih (List.forall_mem_cons.mp hds).2 (body.coherent_inline hc) hbody
  | known hpath hassign _ _ ih =>
    have hd := And.intro hpath (hds _ List.mem_cons_self)
    exact ih (List.forall_mem_cons.mp hds).2 (hc.of_assignName hassign)
      (hnames.of_assignName hc hdistinct hd hassign)
  | @expand c c₁ c₂ _ d name types _ _ hpath hassign _ _ body _ ihbody ih =>
    have hd := hds d List.mem_cons_self
    have hc₁ := (hc.of_assignName hassign).enter d.key
    have hnames₁ : Preferred table roots c₁ := hnames.of_assignName hc hdistinct ⟨hpath, hd⟩ hassign
    have hbody : Preferred table roots c₂ := ihbody hd.part hc₁ hnames₁
    refine ih (List.forall_mem_cons.mp hds).2 (body.coherent_define hc hassign) ?_
    rwa [Preferred, define_names]

/-! ## Runs in another order -/

/-- A run gives out the short name of each composite that is reached, and nothing else. -/
theorem Compiles.naming_iff (h : Compiles table .empty roots ts c)
    (hconsistent : Descriptor.Consistent table roots) (hdistinct : Descriptor.Distinct table roots)
    (hunambiguous : Descriptor.Unambiguous table roots)
    {key name : String} :
    c.naming key = some name ↔ ∃ d, Descriptor.NamedFrom table roots d ∧ d.key = key ∧ d.typeName = name := by
  have hnames := h.preferred hdistinct Descriptor.reachedFrom_self .empty .empty
  refine ⟨hnames key name, ?_⟩
  rintro ⟨d, hd, rfl, rfl⟩
  obtain ⟨met, htracks, hwalk⟩ := h.exists_walk
  have hmet : (d.key, d.fields table) ∈ met := (hwalk.mem_iff hconsistent).mpr ⟨d, hd, rfl⟩
  have hkey : d.key ∈ c.names.map (·.1) := by
    rw [htracks.keys]
    exact List.mem_map_of_mem hmet
  obtain ⟨name, hname⟩ := exists_lookup_of_mem hkey
  obtain ⟨e, he, hkey, rfl⟩ := hnames _ _ hname
  rw [naming, hname, hunambiguous e d he hd hkey]

/-- In another order the last naming is the same, and so are the definitions up to their order. -/
theorem Compiles.perm (h : Compiles table .empty roots ts c) {roots' : List Descriptor} {ts' : List TypeExpr}
    (h' : Compiles table .empty roots' ts' c') (hperm : roots.Perm roots')
    (hconsistent : Descriptor.Consistent table roots) (hdistinct : Descriptor.Distinct table roots)
    (hunambiguous : Descriptor.Unambiguous table roots) :
    c.naming = c'.naming ∧ c.definitions.Perm c'.definitions := by
  have hnamed (d : Descriptor) : Descriptor.NamedFrom table roots d ↔ Descriptor.NamedFrom table roots' d :=
    Descriptor.namedFrom_perm hperm
  have hconsistent' : Descriptor.Consistent table roots' := by
    simpa only [Descriptor.Consistent, hnamed] using hconsistent
  have hdistinct' : Descriptor.Distinct table roots' := by
    simpa only [Descriptor.Distinct, hnamed] using hdistinct
  have hunambiguous' : Descriptor.Unambiguous table roots' := by
    simpa only [Descriptor.Unambiguous, hnamed] using hunambiguous
  have hnaming : c.naming = c'.naming := by
    funext key
    refine Option.ext fun name => ?_
    rw [h.naming_iff hconsistent hdistinct hunambiguous, h'.naming_iff hconsistent' hdistinct' hunambiguous']
    simp only [hnamed]
  obtain ⟨met, htracks, hwalk⟩ := h.exists_walk
  obtain ⟨met', htracks', hwalk'⟩ := h'.exists_walk
  have hmet (entry : String × List Field) : entry ∈ met ↔ entry ∈ met' := by
    rw [hwalk.mem_iff hconsistent, hwalk'.mem_iff hconsistent']
    simp only [hnamed]
  refine ⟨hnaming, (List.perm_ext_iff_of_nodup ?_ ?_).mpr fun definition => ?_⟩
  · exact htracks.coherent.unique.of_map _
  · exact htracks'.coherent.unique.of_map _
  · rw [htracks.mem_definitions_iff h.grows.processing, htracks'.mem_definitions_iff h'.grows.processing]
    rw [hnaming]
    simp only [hmet]

end

end TypedRpc.Compiler
