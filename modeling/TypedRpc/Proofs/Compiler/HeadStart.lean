import TypedRpc.Proofs.Compiler.Nesting

/-!
# A head start

A compiler that already has the definitions of some keys passes over them, and with a key over all that the composite
of the key reaches. Whatever it does expand, it expands at the same depth as a compiler without the head start: what
lies around it is expanded by both. So it succeeds wherever the other one does (`Compiles.ahead`).
-/

namespace TypedRpc.Compiler

open TypedRpc.TypeScript

/-! ## Defined keys -/

/-- The key has a name, and the definition of the name is complete. -/
def Defines (c : Compiler) (key : String) : Prop :=
  ∃ name, c.names.lookup key = some name ∧ name ∈ c.definitions.map (·.name)

section

variable {table : SlotTable} {c c' : Compiler} {d : Descriptor} {ds : List Descriptor} {ts : List TypeExpr}
  {key name : String}

theorem Defines.of_grows (hgrows : Grows c c') (h : c.Defines key) : c'.Defines key := by
  obtain ⟨name, hname, hdefined⟩ := h
  exact ⟨name, hgrows.lookup_names hname, (hgrows.definitions.map _).subset hdefined⟩

theorem defines_iff_of_lookup (hname : c.names.lookup key = some name) :
    c.Defines key ↔ name ∈ c.definitions.map (·.name) := by
  refine ⟨?_, fun hdefined => ⟨name, hname, hdefined⟩⟩
  rintro ⟨other, hother, hdefined⟩
  rwa [Option.some.inj (hname.symm.trans hother)]

/-- A name that is given out now has no definition. -/
theorem defines_of_assignName (hc : c.Coherent) {path : List String} (hassign : c.assignName path = (name, c')) :
    c'.Defines key ↔ c.Defines key := by
  rcases assignName_cases c path with ⟨_, -, heq⟩ | ⟨_, -, hfree, -, heq⟩
  · cases hassign.symm.trans heq
    rfl
  · refine ⟨?_, .of_grows (.of_assignName hassign)⟩
    cases hassign.symm.trans heq
    rintro ⟨other, hother, hdefined⟩
    rcases lookup_give hother with hknown | ⟨rfl, rfl⟩
    · exact ⟨other, hknown, hdefined⟩
    · exact absurd hdefined (definition?_eq_none.mp (hc.undefined hfree))

theorem defines_define (hc : c.Coherent) {definition : Definition} {own : String}
    (hname : c.names.lookup own = some definition.name) :
    (c.define definition).Defines key ↔ c.Defines key ∨ key = own := by
  constructor
  · rintro ⟨name, hlookup, hdefined⟩
    rw [define_names] at hlookup
    obtain ⟨other, hother, rfl⟩ := List.mem_map.mp hdefined
    rcases mem_define hother with hother | rfl
    · exact .inl ⟨_, hlookup, List.mem_map_of_mem hother⟩
    · exact .inr (hc.injective hlookup hname)
  · rintro (hknown | rfl)
    · exact hknown.of_grows (.define c definition)
    · exact ⟨definition.name, by rwa [define_names], name_mem_define c definition⟩

/-- A run defines keys of composites only that it reaches. -/
theorem Compiles.defines_new (h : Compiles table c ds ts c') (hc : c.Coherent) (hdepth : c.inlineDepth ≤ inlineLimit)
    (hkey : c'.Defines key) : c.Defines key ∨ ∃ e, Descriptor.NamedFrom table ds e ∧ e.key = key := by
  obtain ⟨name, hname, hdefined⟩ := hkey
  obtain ⟨definition, hdefinition, rfl⟩ := List.mem_map.mp hdefined
  have hc' := h.coherent hc
  rcases h.definition_nestedWithin Descriptor.reachedFrom_self hdepth definition hdefinition with
    hold | ⟨e, he, hown, -⟩
  · obtain ⟨own, howner⟩ := hc.owned hold
    have hown := hc.inverse.mpr howner
    obtain rfl := hc'.injective (h.grows.lookup_names hown) hname
    exact .inl ⟨definition.name, hown, List.mem_map_of_mem hold⟩
  · exact .inr ⟨e, he, hc'.injective hown hname⟩

end

/-! ## Two compilers, one of which knows more -/

/-- The second compiler is where the first one is, but has the definitions of some keys from before. -/
structure Ahead (given : String → Prop) (c more : Compiler) : Prop where
  coherent : c.Coherent
  coherent_more : more.Coherent
  processing : more.processing = c.processing
  inlineDepth : more.inlineDepth = c.inlineDepth
  pending {key : String} : key ∈ c.processing → ¬ given key
  known {key : String} : given key → more.Defines key
  same {key : String} : ¬ given key → (more.Defines key ↔ c.Defines key)

/-- Composites of given keys reach composites of given keys only. -/
def ClosedIn (table : SlotTable) (roots : List Descriptor) (given : String → Prop) : Prop :=
  ∀ d, Descriptor.NamedFrom table roots d → given d.key → ∀ e, Descriptor.NamedFrom table [d] e → given e.key

namespace Ahead

variable {given : String → Prop} {c c₁ more more₁ : Compiler} {key name name' : String} {path : List String}

theorem withDepth (h : Ahead given c more) (depth : Nat) :
    Ahead given { c with inlineDepth := depth } { more with inlineDepth := depth } :=
  ⟨h.coherent.withDepth _, h.coherent_more.withDepth _, h.processing, rfl, h.pending, h.known, h.same⟩

theorem assignName (h : Ahead given c more) (hassign : c.assignName path = (name, c₁))
    (hassign' : more.assignName path = (name', more₁)) : Ahead given c₁ more₁ := by
  have hgrows := Grows.of_assignName hassign
  have hgrows' := Grows.of_assignName hassign'
  refine ⟨h.coherent.of_assignName hassign, h.coherent_more.of_assignName hassign', ?_, ?_, ?_, ?_, ?_⟩
  · rw [hgrows.processing, hgrows'.processing, h.processing]
  · rw [hgrows.inlineDepth, hgrows'.inlineDepth, h.inlineDepth]
  · rw [hgrows.processing]
    exact h.pending
  · exact fun hgiven => (h.known hgiven).of_grows hgrows'
  · intro key hnew
    rw [defines_of_assignName h.coherent hassign, defines_of_assignName h.coherent_more hassign', h.same hnew]

theorem enter (h : Ahead given c more) (hnew : ¬ given key) : Ahead given (c.enter key) (more.enter key) := by
  refine ⟨h.coherent.enter key, h.coherent_more.enter key, ?_, h.inlineDepth, ?_, h.known, h.same⟩
  · exact congrArg (key :: ·) h.processing
  · intro other hother
    rcases List.mem_cons.mp hother with rfl | hother
    · exact hnew
    · exact h.pending hother

/-- Both define the composite that they have compiled. -/
theorem complete (h : Ahead given c more) (definition definition' : Definition)
    (hname : c.names.lookup key = some definition.name) (hname' : more.names.lookup key = some definition'.name) :
    Ahead given ((c.leave key).define definition) ((more.leave key).define definition') := by
  have hc := h.coherent.leave key
  have hc' := h.coherent_more.leave key
  have hgrows := Grows.define (c.leave key) definition
  have hgrows' := Grows.define (more.leave key) definition'
  refine ⟨hc.define hname, hc'.define hname', ?_, ?_, ?_, ?_, ?_⟩
  · rw [hgrows.processing, hgrows'.processing, leave, leave, h.processing]
  · rw [hgrows.inlineDepth, hgrows'.inlineDepth]
    exact h.inlineDepth
  · rw [hgrows.processing]
    exact fun hother => h.pending (List.mem_of_mem_erase hother)
  · intro other hgiven
    have hknown : (more.leave key).Defines other := h.known hgiven
    exact hknown.of_grows hgrows'
  · intro other hnew
    have hsame : (more.leave key).Defines other ↔ (c.leave key).Defines other := h.same hnew
    rw [defines_define hc hname, defines_define hc' hname', hsame]

/-- The first compiler catches up with a part of what the other one knows. -/
theorem catchUp (h : Ahead given c more) (hgrows : Grows c c₁) (hc₁ : c₁.Coherent)
    (hnew : ∀ key, c₁.Defines key → c.Defines key ∨ given key) : Ahead given c₁ more := by
  refine ⟨hc₁, h.coherent_more, ?_, ?_, ?_, h.known, ?_⟩
  · rw [hgrows.processing, h.processing]
  · rw [hgrows.inlineDepth, h.inlineDepth]
  · rw [hgrows.processing]
    exact h.pending
  · intro key hother
    rw [h.same hother]
    exact ⟨.of_grows hgrows, fun hdefined => (hnew key hdefined).resolve_right hother⟩

/-- Of the two, only the first compiler expands a composite that is given, and what it defines then is given. -/
theorem expand {table : SlotTable} {roots : List Descriptor} {c₂ : Compiler} {d : Descriptor} {types : List TypeExpr}
    (h : Ahead given c₁ more) (hclosed : ClosedIn table roots given) (hd : Descriptor.NamedFrom table roots d)
    (hgiven : given d.key) (hc : c.Coherent) (hdepth : c.inlineDepth ≤ inlineLimit)
    (hassign : c.assignName d.path = (name, c₁)) (hkey : d.key ∉ c₁.processing)
    (hname : name ∉ c₁.definitions.map (·.name)) (body : Compiles table (c₁.enter d.key) (d.parts table) types c₂) :
    Ahead given ((c₂.leave d.key).define ⟨name, Field.members (d.fields table) types⟩) more := by
  have halone : Compiles table c [d] [.reference name] _ := .expand hd.1 hassign hkey hname body .nil
  refine h.catchUp (body.grows.complete _) (halone.coherent hc) fun key hdefined => ?_
  rcases halone.defines_new hc hdepth hdefined with hold | ⟨e, he, rfl⟩
  · exact .inl ((defines_of_assignName hc hassign).mpr hold)
  · exact .inr (hclosed d hd hgiven e he)

end Ahead

/-! ## A run with a head start -/

/-- What succeeds without a head start succeeds with it. -/
theorem Compiles.ahead {table : SlotTable} {roots ds : List Descriptor} {given : String → Prop} {c c' more : Compiler}
    {ts : List TypeExpr} (hclosed : ClosedIn table roots given) (h : Compiles table c ds ts c')
    (hds : ∀ d ∈ ds, Descriptor.ReachedFrom table roots d) (hdepth : c.inlineDepth ≤ inlineLimit)
    (hahead : Ahead given c more) :
    ∃ us more', Compiles table more ds us more' ∧ Ahead given c' more' := by
  induction h generalizing more with
  | nil => exact ⟨[], more, .nil, hahead⟩
  | keyword hword _ ih =>
    obtain ⟨us, more', hrun, hahead'⟩ := ih (List.forall_mem_cons.mp hds).2 hdepth hahead
    exact ⟨_, more', .keyword hword hrun, hahead'⟩
  | sequence _ ih =>
    obtain ⟨us, more', hrun, hahead'⟩ := ih (.open hds) hdepth hahead
    obtain ⟨u, us, rfl⟩ := List.exists_cons_of_length_eq_add_one hrun.length_eq
    exact ⟨_, more', .sequence hrun, hahead'⟩
  | optional _ ih =>
    obtain ⟨us, more', hrun, hahead'⟩ := ih (.open hds) hdepth hahead
    exact ⟨us, more', .optional hrun, hahead'⟩
  | wrapper _ ih =>
    obtain ⟨us, more', hrun, hahead'⟩ := ih (.open hds) hdepth hahead
    exact ⟨us, more', .wrapper hrun, hahead'⟩
  | @inline c c₁ c' d _ _ _ hcomposite hpath hlt body _ ihbody ih =>
    have hgrows := body.grows.inline
    obtain ⟨types, more₁, hbody, hahead₁⟩ := ihbody (hds _ List.mem_cons_self).part hlt
      (hahead.withDepth (c.inlineDepth + 1))
    rw [← hahead.inlineDepth] at hbody hlt
    obtain ⟨us, more', hrun, hahead'⟩ := ih (List.forall_mem_cons.mp hds).2 (hgrows.inlineDepth ▸ hdepth)
      (hahead₁.withDepth (c₁.inlineDepth - 1))
    rw [← hahead₁.inlineDepth] at hrun
    exact ⟨_, more', .inline hcomposite hpath hlt hbody hrun, hahead'⟩
  | @known c c₁ c' d name _ _ hpath hassign hknown _ ih =>
    generalize hassign' : more.assignName d.path = assigned
    obtain ⟨name', more₁⟩ := assigned
    have hahead₁ := hahead.assignName hassign hassign'
    have hgrows := Grows.of_assignName hassign
    obtain ⟨us, more', hrun, hahead'⟩ := ih (List.forall_mem_cons.mp hds).2 (hgrows.inlineDepth ▸ hdepth) hahead₁
    refine ⟨_, more', .known hpath hassign' ?_ hrun, hahead'⟩
    rw [← defines_iff_of_lookup (lookup_of_assignName hassign')]
    rw [← defines_iff_of_lookup (lookup_of_assignName hassign)] at hknown
    by_cases hgiven : given d.key
    · exact .inr (hahead₁.known hgiven)
    · rw [hahead₁.processing]
      exact hknown.imp_right (hahead₁.same hgiven).mpr
  | @expand c c₁ c₂ c' d name types _ _ hpath hassign hkey hname body _ ihbody ih =>
    generalize hassign' : more.assignName d.path = assigned
    obtain ⟨name', more₁⟩ := assigned
    have hd := hds d List.mem_cons_self
    have hassigned := Grows.of_assignName hassign
    have hcomplete := body.grows.complete ⟨name, Field.members (d.fields table) types⟩
    have hdepth₁ : c₁.inlineDepth ≤ inlineLimit := hassigned.inlineDepth ▸ hdepth
    have hdepth₂ := hcomplete.inlineDepth ▸ hdepth₁
    have hahead₁ := hahead.assignName hassign hassign'
    by_cases hgiven : given d.key
    · have hcaught := hahead₁.expand hclosed ⟨hpath, hd⟩ hgiven hahead.coherent hdepth hassign hkey hname body
      obtain ⟨us, more', hrun, hahead'⟩ := ih (List.forall_mem_cons.mp hds).2 hdepth₂ hcaught
      refine ⟨_, more', .known hpath hassign' (.inr ?_) hrun, hahead'⟩
      exact (defines_iff_of_lookup (lookup_of_assignName hassign')).mp (hahead₁.known hgiven)
    · obtain ⟨types', more₂, hbody, hahead₂⟩ := ihbody hd.part hdepth₁ (hahead₁.enter hgiven)
      have hcompleted := hahead₂.complete ⟨name, Field.members (d.fields table) types⟩
        ⟨name', Field.members (d.fields table) types'⟩ (body.lookup_body hassign) (hbody.lookup_body hassign')
      obtain ⟨us, more', hrun, hahead'⟩ := ih (List.forall_mem_cons.mp hds).2 hdepth₂ hcompleted
      refine ⟨_, more', .expand hpath hassign' ?_ ?_ hbody hrun, hahead'⟩
      · rwa [hahead₁.processing]
      · rw [← defines_iff_of_lookup (lookup_of_assignName hassign)] at hname
        rw [← defines_iff_of_lookup (lookup_of_assignName hassign')]
        exact fun hdefined => hname ((hahead₁.same hgiven).mp hdefined)

end TypedRpc.Compiler
