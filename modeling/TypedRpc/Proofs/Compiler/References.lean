import TypedRpc.Proofs.Compiler.Derivation

/-!
# References between definitions

What a run answers and defines refers to names in the table only, and what it defines is reached from what it
answers by following references.
-/

namespace TypedRpc

open TypedRpc.TypeScript

namespace TypeScript

/-- The definition of the first name refers to the second one. -/
def Refers (definitions : List Definition) (name other : String) : Prop :=
  ∃ definition ∈ definitions, definition.name = name ∧ other ∈ definition.references

theorem Refers.mono {definitions more : List Definition} (h : definitions ⊆ more) {name other : String}
    (hrefers : Refers definitions name other) : Refers more name other := by
  obtain ⟨definition, hd, hname, hother⟩ := hrefers
  exact ⟨definition, h hd, hname, hother⟩

theorem Refers.reaches_mono {definitions more : List Definition} (h : definitions ⊆ more) {name other : String}
    (hreaches : Relation.ReflTransGen (Refers definitions) name other) :
    Relation.ReflTransGen (Refers more) name other :=
  Relation.ReflTransGen.mono (fun _ _ hrefers => hrefers.mono h) _ _ hreaches

end TypeScript

theorem Field.referencesList_members {fields : List Field} {types : List TypeExpr}
    (h : types.length = fields.length) :
    Member.referencesList (Field.members fields types) = types.flatMap TypeExpr.references := by
  induction fields generalizing types with
  | nil =>
    obtain rfl := List.length_eq_zero_iff.mp h
    rfl
  | cons field rest ih =>
    obtain ⟨type, types, rfl⟩ := List.exists_cons_of_length_eq_add_one h
    have hlength : types.length = rest.length := by simpa using h
    have hrest := ih hlength
    rw [Field.members] at hrest
    simp [Field.members, Field.member, Member.referencesList, Member.references, hrest]

namespace Compiler

theorem mem_define {c : Compiler} {definition other : Definition}
    (h : other ∈ (c.define definition).definitions) :
    other ∈ c.definitions ∨ other = definition := by
  unfold define at h
  split at h
  · exact .inl h
  · simpa using h

theorem mem_define_self {c : Compiler} {definition : Definition} (h : c.definition? definition.name = none) :
    definition ∈ (c.define definition).definitions := by
  simp [define_of_none h]

theorem name_mem_define (c : Compiler) (definition : Definition) :
    definition.name ∈ (c.define definition).definitions.map (·.name) := by
  by_cases hdefined : definition.name ∈ c.definitions.map (·.name)
  · exact ((Grows.define c definition).definitions.map _).subset hdefined
  · exact List.mem_map_of_mem (mem_define_self (definition?_eq_none.mpr hdefined))

/-! ## Names that are still to be defined -/

/-- The name is defined, or it is the name of one of these keys. -/
def Covers (c : Compiler) (pending : String → Prop) (name : String) : Prop :=
  name ∈ c.definitions.map (·.name) ∨ ∃ key, pending key ∧ c.names.lookup key = some name

/-- Definitions refer to what is defined and to these keys. -/
def ClosedUpTo (c : Compiler) (pending : String → Prop) : Prop :=
  ∀ definition ∈ c.definitions, ∀ name ∈ definition.references, c.Covers pending name

/-- Every name that a definition refers to is defined. -/
def Closed (c : Compiler) : Prop :=
  ∀ definition ∈ c.definitions, ∀ name ∈ definition.references, name ∈ c.definitions.map (·.name)

instance (c : Compiler) : Decidable c.Closed :=
  inferInstanceAs (Decidable (∀ definition ∈ c.definitions, ∀ name ∈ definition.references, _))

section

variable {c c' : Compiler} {pending more : String → Prop} {name : String}

theorem Covers.mono (h : c.Covers pending name) (hmore : ∀ key, pending key → more key) : c.Covers more name := by
  rcases h with hdefined | ⟨key, hkey, hname⟩
  · exact .inl hdefined
  · exact .inr ⟨key, hmore key hkey, hname⟩

theorem Covers.of_grows (hgrows : Grows c c') (h : c.Covers pending name) : c'.Covers pending name := by
  rcases h with hdefined | ⟨key, hkey, hname⟩
  · exact .inl ((hgrows.definitions.map _).subset hdefined)
  · exact .inr ⟨key, hkey, hgrows.lookup_names hname⟩

/-- A key that gets its definition need not be among those that are still to be defined. -/
theorem Covers.define {own : String} {definition : Definition} (h : c.Covers (fun key => pending key ∨ key = own) name)
    (hown : c.names.lookup own = some definition.name) : ((c.leave own).define definition).Covers pending name := by
  rcases h with hdefined | ⟨key, hkey | rfl, hname⟩
  · exact .inl (((Grows.define (c.leave own) definition).definitions.map _).subset hdefined)
  · exact .inr ⟨key, hkey, (Grows.define (c.leave own) definition).lookup_names hname⟩
  · obtain rfl := Option.some.inj (hown.symm.trans hname)
    exact .inl (name_mem_define _ definition)

theorem Covers.defined (h : c.Covers pending name) (hnone : ∀ key, ¬ pending key) :
    name ∈ c.definitions.map (·.name) := by
  rcases h with hdefined | ⟨key, hkey, -⟩
  · exact hdefined
  · exact absurd hkey (hnone key)

theorem Closed.upTo (h : c.Closed) (pending : String → Prop) : c.ClosedUpTo pending :=
  fun definition hd name hname => .inl (h definition hd name hname)

theorem ClosedUpTo.closed (h : c.ClosedUpTo pending) (hnone : ∀ key, ¬ pending key) : c.Closed :=
  fun definition hd name hname => (h definition hd name hname).defined hnone

theorem ClosedUpTo.define {own : String} {definition : Definition}
    (h : c.ClosedUpTo fun key => pending key ∨ key = own)
    (hreferences : ∀ name ∈ definition.references, c.Covers (fun key => pending key ∨ key = own) name)
    (hown : c.names.lookup own = some definition.name) : ((c.leave own).define definition).ClosedUpTo pending := by
  intro other hother name hname
  rcases mem_define hother with hother | rfl
  · exact (h other hother name hname).define hown
  · exact (hreferences name hname).define hown

theorem ClosedUpTo.mono (h : c.ClosedUpTo pending) (hmore : ∀ key, pending key → more key) : c.ClosedUpTo more :=
  fun definition hd name hname => (h definition hd name hname).mono hmore

theorem ClosedUpTo.of_grows (hgrows : Grows c c') (hsame : c'.definitions = c.definitions)
    (h : c.ClosedUpTo pending) : c'.ClosedUpTo pending := by
  intro definition hd name hname
  rw [hsame] at hd
  exact (h definition hd name hname).of_grows hgrows

end

namespace Compiles

variable {table : SlotTable} {c c' : Compiler} {ds : List Descriptor} {ts : List TypeExpr}

/-- The members of a composite refer to what the types of its fields refer to. -/
theorem references_members {d : Descriptor} {types : List TypeExpr} (hcomposite : d.isComposite = true)
    (body : Compiles table c (d.parts table) types c') :
    Member.referencesList (Field.members (d.fields table) types) = types.flatMap TypeExpr.references := by
  refine Field.referencesList_members ?_
  rw [body.length_eq, Descriptor.parts_eq_types hcomposite, List.length_map]

/-- Where definitions refer to no more than these keys and what is defined, they do so afterwards, and so do the
answers, as long as the keys under construction that are met are among them. -/
theorem closedUpTo (h : Compiles table c ds ts c') {roots : List Descriptor} {pending : String → Prop}
    (hds : ∀ d ∈ ds, Descriptor.ReachedFrom table roots d)
    (hpending : ∀ key ∈ c.processing, Descriptor.KeyFrom table roots key → pending key)
    (hclosed : c.ClosedUpTo pending) :
    (∀ name ∈ ts.flatMap TypeExpr.references, c'.Covers pending name) ∧ c'.ClosedUpTo pending := by
  induction h generalizing pending with
  | nil => exact ⟨nofun, hclosed⟩
  | keyword _ _ ih => exact ih (List.forall_mem_cons.mp hds).2 hpending hclosed
  | sequence _ ih => exact ih (.open hds) hpending hclosed
  | optional _ ih => exact ih (.open hds) hpending hclosed
  | wrapper _ ih => exact ih (.open hds) hpending hclosed
  | inline hcomposite _ _ body rest ihbody ih =>
    obtain ⟨hd, hrest⟩ := List.forall_mem_cons.mp hds
    obtain ⟨hparts, hclosed₁⟩ := ihbody hd.part hpending hclosed
    rw [← body.grows.inline.processing] at hpending
    obtain ⟨hanswers, hclosed'⟩ := ih hrest hpending hclosed₁
    refine ⟨?_, hclosed'⟩
    rw [List.flatMap_cons, TypeExpr.references, body.references_members hcomposite]
    intro name hname
    rcases List.mem_append.mp hname with hname | hname
    · exact (hparts name hname).of_grows rest.grows
    · exact hanswers name hname
  | @known c c₁ c' d name _ _ hpath hassign hknown rest ih =>
    obtain ⟨hd, hrest⟩ := List.forall_mem_cons.mp hds
    have hgrows := Grows.of_assignName hassign
    rw [← hgrows.processing] at hpending
    have hclosed₁ := hclosed.of_grows hgrows (definitions_of_assignName hassign)
    obtain ⟨hanswers, hclosed'⟩ := ih hrest hpending hclosed₁
    have hcovers : c₁.Covers pending name := by
      rcases hknown with hkey | hdefined
      · exact .inr ⟨d.key, hpending d.key hkey ⟨d, ⟨hpath, hd⟩, rfl⟩, lookup_of_assignName hassign⟩
      · exact .inl hdefined
    exact ⟨List.forall_mem_cons.mpr ⟨hcovers.of_grows rest.grows, hanswers⟩, hclosed'⟩
  | @expand c c₁ c₂ c' d name types _ _ hpath hassign _ _ body rest ihbody ih =>
    obtain ⟨hd, hrest⟩ := List.forall_mem_cons.mp hds
    have hgrows := Grows.of_assignName hassign
    rw [← hgrows.processing] at hpending
    have hclosed₁ := hclosed.of_grows hgrows (definitions_of_assignName hassign)
    -- below the composite its own key may be referred to as well
    have hentered : ∀ key ∈ (c₁.enter d.key).processing, Descriptor.KeyFrom table roots key →
        pending key ∨ key = d.key := by
      intro key hkey hmet
      rcases List.mem_cons.mp hkey with rfl | hkey
      · exact .inr rfl
      · exact .inl (hpending key hkey hmet)
    obtain ⟨hparts, hclosed₂⟩ := ihbody hd.part hentered (hclosed₁.mono fun _ => .inl)
    let definition : Definition := ⟨name, Field.members (d.fields table) types⟩
    have hname : c₂.names.lookup d.key = some definition.name := body.lookup_body hassign
    have hcomplete := body.grows.complete definition
    have hreferences : definition.references = types.flatMap TypeExpr.references :=
      body.references_members (Descriptor.isComposite_of_path hpath)
    have hclosed₃ : ((c₂.leave d.key).define definition).ClosedUpTo pending :=
      hclosed₂.define (hreferences ▸ hparts) hname
    rw [← hcomplete.processing] at hpending
    obtain ⟨hanswers, hclosed'⟩ := ih hrest hpending hclosed₃
    have hdefined : name ∈ c'.definitions.map (·.name) :=
      (rest.grows.definitions.map _).subset (name_mem_define _ definition)
    exact ⟨List.forall_mem_cons.mpr ⟨.inl hdefined, hanswers⟩, hclosed'⟩

/-- What is under construction is not defined by the parts of it. -/
theorem undefined (h : Compiles table c ds ts c') (hc : c.Coherent) {key name : String}
    (hkey : key ∈ c.processing) (hname : c.names.lookup key = some name)
    (hundefined : name ∉ c.definitions.map (·.name)) : name ∉ c'.definitions.map (·.name) := by
  induction h with
  | nil => exact hundefined
  | keyword _ _ ih => exact ih hc hkey hname hundefined
  | sequence _ ih => exact ih hc hkey hname hundefined
  | optional _ ih => exact ih hc hkey hname hundefined
  | wrapper _ ih => exact ih hc hkey hname hundefined
  | inline _ _ _ body _ ihbody ih =>
    have hgrows := body.grows.inline
    refine ih (body.coherent_inline hc) (hgrows.processing ▸ hkey) (hgrows.lookup_names hname) ?_
    exact ihbody (hc.withDepth _) hkey hname hundefined
  | known _ hassign _ _ ih =>
    have hgrows := Grows.of_assignName hassign
    refine ih (hc.of_assignName hassign) (hgrows.processing ▸ hkey) (hgrows.lookup_names hname) ?_
    rwa [definitions_of_assignName hassign]
  | @expand c c₁ c₂ c' d other types _ _ _ hassign hnew _ body _ ihbody ih =>
    have hgrows := Grows.of_assignName hassign
    have hkey' : key ∈ c₁.processing := hgrows.processing ▸ hkey
    have hname' : c₁.names.lookup key = some name := hgrows.lookup_names hname
    have hc₁ := (hc.of_assignName hassign).enter d.key
    have hundefined₂ : name ∉ c₂.definitions.map (·.name) := by
      refine ihbody hc₁ (List.mem_cons_of_mem _ hkey') hname' ?_
      rwa [← definitions_of_assignName hassign] at hundefined
    have hcomplete := body.grows.complete ⟨other, Field.members (d.fields table) types⟩
    refine ih (body.coherent_define hc hassign) (hcomplete.processing ▸ hkey') (hcomplete.lookup_names hname') ?_
    intro hmem
    obtain ⟨definition, hd, rfl⟩ := List.mem_map.mp hmem
    rcases mem_define hd with hd | rfl
    · exact hundefined₂ (List.mem_map_of_mem hd)
    · -- the composite that was defined would be the one under construction
      have hsame := (body.coherent hc₁).injective (body.lookup_body hassign) (body.grows.lookup_names hname')
      exact hnew (hsame ▸ hkey')

/-- New definitions are reached from the answers. -/
theorem definitions_reached (h : Compiles table c ds ts c') (hc : c.Coherent) :
    ∀ definition ∈ c'.definitions, definition ∈ c.definitions ∨
      ∃ root ∈ ts.flatMap TypeExpr.references,
        Relation.ReflTransGen (Refers c'.definitions) root definition.name := by
  induction h with
  | nil => exact fun _ hd => .inl hd
  | keyword _ _ ih => exact ih hc
  | sequence _ ih => exact ih hc
  | optional _ ih => exact ih hc
  | wrapper _ ih => exact ih hc
  | inline hcomposite _ _ body rest ihbody ih =>
    intro definition hd
    rw [List.flatMap_cons, TypeExpr.references, body.references_members hcomposite]
    rcases ih (body.coherent_inline hc) definition hd with hd | ⟨root, hroot, hreached⟩
    · refine (ihbody (hc.withDepth _) definition hd).imp_right ?_
      rintro ⟨root, hroot, hreached⟩
      have hmore := rest.grows.definitions.subset
      exact ⟨root, List.mem_append_left _ hroot, Refers.reaches_mono hmore hreached⟩
    · exact .inr ⟨root, List.mem_append_right _ hroot, hreached⟩
  | known _ hassign _ _ ih =>
    intro definition hd
    rcases ih (hc.of_assignName hassign) definition hd with hd | ⟨root, hroot, hreached⟩
    · exact .inl (definitions_of_assignName hassign ▸ hd)
    · exact .inr ⟨root, List.mem_cons_of_mem _ hroot, hreached⟩
  | @expand c c₁ c₂ c' d name types _ _ hpath hassign _ hname body rest ihbody ih =>
    intro definition hd
    have hc₁ := (hc.of_assignName hassign).enter d.key
    have hnamed : c₁.names.lookup d.key = some name := lookup_of_assignName hassign
    -- nobody else has defined the name, so the definition is the one that is added here
    have hundefined := body.undefined hc₁ List.mem_cons_self hnamed hname
    have hself := rest.grows.definitions.subset (mem_define_self (definition?_eq_none.mpr hundefined))
    rcases ih (body.coherent_define hc hassign) definition hd with hd | ⟨root, hroot, hreached⟩
    · rcases mem_define hd with hd | rfl
      · refine (definitions_of_assignName hassign ▸ ihbody hc₁ definition hd).imp_right ?_
        rintro ⟨root, hroot, hreached⟩
        -- the answers to the parts stand in the definition of the composite itself
        have hmore := ((Grows.define _ _).trans rest.grows).definitions.subset
        have hrefers : Refers c'.definitions name root := by
          refine ⟨_, hself, rfl, ?_⟩
          rwa [Definition.references, body.references_members (Descriptor.isComposite_of_path hpath)]
        exact ⟨name, List.mem_cons_self, .head hrefers (Refers.reaches_mono hmore hreached)⟩
      · exact .inr ⟨name, List.mem_cons_self, .refl⟩
    · exact .inr ⟨root, List.mem_cons_of_mem _ hroot, hreached⟩

/-- Where nothing is under construction and no definition is missing, none is missing afterwards. -/
theorem keeps_closed (h : Compiles table c ds ts c') (hprocessing : c.processing = []) (hclosed : c.Closed) :
    (∀ name ∈ ts.flatMap TypeExpr.references, name ∈ c'.definitions.map (·.name)) ∧ c'.Closed := by
  have hnone : ∀ key ∈ c.processing, Descriptor.KeyFrom table ds key → False := by
    rw [hprocessing]
    exact nofun
  obtain ⟨hanswers, hclosed'⟩ := h.closedUpTo Descriptor.reachedFrom_self hnone (hclosed.upTo fun _ => False)
  exact ⟨fun name hname => (hanswers name hname).defined fun _ => id, hclosed'.closed fun _ => id⟩

/-- A run on a fresh compiler defines each name that it answers or defines with. -/
theorem closed (h : Compiles table .empty ds ts c) {name : String}
    (hname : name ∈ ts.flatMap TypeExpr.references ∨
      ∃ definition ∈ c.definitions, name ∈ definition.references) :
    name ∈ c.definitions.map (·.name) := by
  obtain ⟨hanswers, hclosed⟩ := h.keeps_closed rfl nofun
  rcases hname with hanswer | ⟨definition, hd, hreference⟩
  · exact hanswers name hanswer
  · exact hclosed definition hd name hreference

end Compiles

end Compiler

end TypedRpc
