import TypedRpc.Proofs.Compiler.Growth
import TypedRpc.Proofs.Descriptor.Graph

/-!
# Successful compilations

`Compiles` derives what a compiler answers to a list of descriptors, as long as nothing fails, from what it
answers to their parts. Every successful run has a derivation (`compile_ok`), so what holds of all successful
runs is shown by induction on derivations.
-/

namespace TypedRpc

open TypedRpc.TypeScript

/-- The member that a field becomes once its type is compiled. -/
def Field.member (field : Field) (type : TypeExpr) : Member :=
  .mk field.wireName field.isOptional type

/-- The members that fields become once their types are compiled. -/
def Field.members (fields : List Field) (types : List TypeExpr) : List Member :=
  fields.zipWith Field.member types

namespace Compiler

/-- A compiler turns the descriptors into the type expressions one after the other and ends in the second
state. -/
inductive Compiles (table : SlotTable) :
    Compiler → List Descriptor → List TypeExpr → Compiler → Prop where
  | nil {c : Compiler} : Compiles table c [] [] c
  | keyword {c c' : Compiler} {d : Descriptor} {word : Keyword} {ds : List Descriptor} {ts : List TypeExpr}
      (hword : d.keyword? = some word) (rest : Compiles table c ds ts c') :
      Compiles table c (d :: ds) (.keyword word :: ts) c'
  | sequence {c c' : Compiler} {element : Descriptor} {t : TypeExpr} {ds : List Descriptor} {ts : List TypeExpr}
      (run : Compiles table c (element :: ds) (t :: ts) c') :
      Compiles table c (.sequence element :: ds) (.nullableArray t :: ts) c'
  | optional {c c' : Compiler} {inner : Descriptor} {ds : List Descriptor} {ts : List TypeExpr}
      (run : Compiles table c (inner :: ds) ts c') : Compiles table c (.optional inner :: ds) ts c'
  | wrapper {c c' : Compiler} {inner : Descriptor} {ds : List Descriptor} {ts : List TypeExpr}
      (run : Compiles table c (inner :: ds) ts c') : Compiles table c (.wrapper inner :: ds) ts c'
  /-- A composite is written out. -/
  | inline {c c₁ c' : Compiler} {d : Descriptor} {types : List TypeExpr} {ds : List Descriptor}
      {ts : List TypeExpr} (hcomposite : d.isComposite = true) (hpath : d.path = [])
      (hdepth : c.inlineDepth < inlineLimit)
      (body : Compiles table { c with inlineDepth := c.inlineDepth + 1 } (d.parts table) types c₁)
      (rest : Compiles table { c₁ with inlineDepth := c₁.inlineDepth - 1 } ds ts c') :
      Compiles table c (d :: ds) (.object (Field.members (d.fields table) types) :: ts) c'
  /-- A named composite is under construction, or its definition is complete. -/
  | known {c c₁ c' : Compiler} {d : Descriptor} {name : String} {ds : List Descriptor} {ts : List TypeExpr}
      (hpath : d.path ≠ []) (hassign : c.assignName d.path = (name, c₁))
      (hknown : d.key ∈ c₁.processing ∨ name ∈ c₁.definitions.map (·.name))
      (rest : Compiles table c₁ ds ts c') : Compiles table c (d :: ds) (.reference name :: ts) c'
  /-- A named composite is defined. -/
  | expand {c c₁ c₂ c' : Compiler} {d : Descriptor} {name : String} {types : List TypeExpr}
      {ds : List Descriptor} {ts : List TypeExpr}
      (hpath : d.path ≠ []) (hassign : c.assignName d.path = (name, c₁))
      (hkey : d.key ∉ c₁.processing) (hname : name ∉ c₁.definitions.map (·.name))
      (body : Compiles table (c₁.enter d.key) (d.parts table) types c₂)
      (rest : Compiles table ((c₂.leave d.key).define ⟨name, Field.members (d.fields table) types⟩) ds ts c') :
      Compiles table c (d :: ds) (.reference name :: ts) c'

namespace Compiles

variable {table : SlotTable} {c c₁ c' : Compiler} {d : Descriptor} {ds ds' : List Descriptor}
  {t : TypeExpr} {ts ts' : List TypeExpr}

theorem append (h : Compiles table c ds ts c₁) (h' : Compiles table c₁ ds' ts' c') :
    Compiles table c (ds ++ ds') (ts ++ ts') c' := by
  induction h with
  | nil => exact h'
  | keyword hword _ ih => exact .keyword hword (ih h')
  | sequence _ ih => exact .sequence (ih h')
  | optional _ ih => exact .optional (ih h')
  | wrapper _ ih => exact .wrapper (ih h')
  | inline hcomposite hpath hdepth body _ _ ih => exact .inline hcomposite hpath hdepth body (ih h')
  | known hpath hassign hknown _ ih => exact .known hpath hassign hknown (ih h')
  | expand hpath hassign hkey hname body _ _ ih => exact .expand hpath hassign hkey hname body (ih h')

theorem length_eq (h : Compiles table c ds ts c') : ts.length = ds.length := by
  induction h <;> simp_all

end Compiles

/-- What each step keeps, a derivation keeps. -/
theorem Law.compiles {R : Compiler → Compiler → Prop} (law : Law R) {table : SlotTable} {c c' : Compiler}
    {ds : List Descriptor} {ts : List TypeExpr} (h : Compiles table c ds ts c') : R c c' := by
  -- giving out a name is the step that both kinds of references begin with
  have hassigned {c c₁ : Compiler} {segments : List String} {name : String}
      (hassign : c.assignName segments = (name, c₁)) : R c c₁ := by
    simpa [hassign] using law.assign c segments
  induction h with
  | nil => exact law.refl _
  | keyword _ _ ih => exact ih
  | sequence _ ih => exact ih
  | optional _ ih => exact ih
  | wrapper _ ih => exact ih
  | inline _ _ _ _ _ ihbody ih => exact law.trans (law.inline ihbody) ih
  | known _ hassign _ _ ih => exact law.trans (hassigned hassign) ih
  | expand _ hassign _ _ _ _ ihbody ih =>
    have hname := lookup_of_assignName hassign
    exact law.trans (hassigned hassign) (law.trans (law.complete hname ihbody) ih)

namespace Compiles

variable {table : SlotTable} {c c' : Compiler} {ds : List Descriptor} {ts : List TypeExpr}

theorem grows (h : Compiles table c ds ts c') : Grows c c' :=
  Grows.law.compiles h

theorem coherent (h : Compiles table c ds ts c') (hc : c.Coherent) : c'.Coherent :=
  (Coherent.law.compiles h).2 hc

/-- The state behind a composite that is written out. -/
theorem coherent_inline {depth depth' : Nat} (body : Compiles table { c with inlineDepth := depth } ds ts c')
    (hc : c.Coherent) : { c' with inlineDepth := depth' }.Coherent :=
  (body.coherent (hc.withDepth depth)).withDepth depth'

/-- The parts of a composite do not take its name away. -/
theorem lookup_body {c₁ : Compiler} {d : Descriptor} {name : String}
    (body : Compiles table (c₁.enter d.key) ds ts c') (hassign : c.assignName d.path = (name, c₁)) :
    c'.names.lookup d.key = some name := by
  have hname : c₁.names.lookup d.key = some name := lookup_of_assignName hassign
  exact body.grows.lookup_names hname

/-- The state behind a composite that is defined. -/
theorem coherent_define {c₁ : Compiler} {d : Descriptor} {name : String} {members : List Member}
    (body : Compiles table (c₁.enter d.key) ds ts c') (hc : c.Coherent)
    (hassign : c.assignName d.path = (name, c₁)) : ((c'.leave d.key).define ⟨name, members⟩).Coherent := by
  have hc' : c'.Coherent := body.coherent ((hc.of_assignName hassign).enter d.key)
  have hname : (c'.leave d.key).names.lookup d.key = some name := body.lookup_body hassign
  exact (hc'.leave d.key).define hname

end Compiles

/-! ## Successful runs have derivations -/

/-- What a run answers, when it succeeds, are the members for the fields, and there is a derivation of it. -/
def Derives (table : SlotTable) (run : Step (List Member)) (fields : List Field) : Prop :=
  ∀ c c' members, run c = (.ok members, c') →
    ∃ types, members = Field.members fields types ∧ Compiles table c (fields.map Field.type) types c'

section

variable {table : SlotTable} {slot : String → Step (List Member)}

theorem expandInline_ok {d : Descriptor} {body : Step (List Member)} {c c' : Compiler} {t : TypeExpr}
    (hcomposite : d.isComposite = true) (hpath : d.path = []) (hbody : Derives table body (d.fields table))
    (hrun : expandInline body c = (.ok t, c')) : Compiles table c [d] [t] c' := by
  unfold expandInline at hrun
  split at hrun
  · cases hrun
  · rename_i hdepth
    generalize hfields : body { c with inlineDepth := c.inlineDepth + 1 } = outcome at hrun
    obtain ⟨_ | members, c₁⟩ := outcome
    · cases hrun
    · cases hrun
      obtain ⟨types, rfl, hderived⟩ := hbody _ _ _ hfields
      rw [← Descriptor.parts_eq_types hcomposite] at hderived
      exact .inline hcomposite hpath (Nat.lt_of_not_le hdepth) hderived .nil

theorem expandNamed_ok {d : Descriptor} {body : Step (List Member)} {c c' : Compiler} {t : TypeExpr}
    (hpath : d.path ≠ []) (hbody : Derives table body (d.fields table))
    (hrun : expandNamed d.path body c = (.ok t, c')) : Compiles table c [d] [t] c' := by
  unfold expandNamed at hrun
  generalize hassign : c.assignName d.path = assigned at hrun
  obtain ⟨name, c₁⟩ := assigned
  dsimp only at hrun
  split at hrun
  · rename_i hknown
    cases hrun
    refine .known hpath hassign ?_ .nil
    simpa [definition?_isSome, Descriptor.key] using hknown
  · rename_i hnew
    -- the test that failed, as a statement about lists
    have hnew : d.key ∉ c₁.processing ∧ name ∉ c₁.definitions.map (·.name) := by
      rw [← definition?_isSome]
      simpa [not_or, Descriptor.key] using hnew
    split at hrun
    · cases hrun
    · rename_i members c₂ hfields
      cases hrun
      obtain ⟨types, rfl, hderived⟩ := hbody _ _ _ hfields
      rw [← Descriptor.parts_eq_types (Descriptor.isComposite_of_path hpath)] at hderived
      exact .expand hpath hassign hnew.1 hnew.2 hderived .nil

mutual

theorem compileWith_ok (hslot : ∀ s, Derives table (slot s) (table.fields s)) :
    ∀ (d : Descriptor) (c c' : Compiler) (t : TypeExpr),
      compileWith slot d c = (.ok t, c') → Compiles table c [d] [t] c'
  | .scalar kind, c, c', t, hrun => by
    cases hrun
    exact .keyword (by cases kind <;> rfl) .nil
  | .timestamp, c, c', t, hrun => by
    cases hrun
    exact .keyword rfl .nil
  | .unknown, c, c', t, hrun => by
    cases hrun
    exact .keyword rfl .nil
  | .sequence element, c, c', t, hrun => by
    rw [compileWith] at hrun
    generalize helement : compileWith slot element c = outcome at hrun
    obtain ⟨_ | t, c₁⟩ := outcome
    · cases hrun
    · cases hrun
      exact .sequence (compileWith_ok hslot element _ _ _ helement)
  | .optional inner, c, c', t, hrun => .optional (compileWith_ok hslot inner c c' t hrun)
  | .wrapper inner, c, c', t, hrun => .wrapper (compileWith_ok hslot inner c c' t hrun)
  | .named name fields, c, c', t, hrun => by
    rw [compileWith] at hrun
    split at hrun
    · rename_i hpath
      exact expandInline_ok (d := .named name fields) rfl hpath (compileFields_ok hslot fields) hrun
    · rename_i first rest hpath
      refine expandNamed_ok (d := .named name fields) ?_ (compileFields_ok hslot fields) ?_
      · simp [Descriptor.path, hpath]
      · simpa only [Descriptor.path, hpath] using hrun
  | .inline fields, c, c', t, hrun =>
    expandInline_ok (d := .inline fields) rfl rfl (compileFields_ok hslot fields) hrun

theorem compileFields_ok (hslot : ∀ s, Derives table (slot s) (table.fields s)) :
    ∀ fields : FieldList, Derives table (compileFields slot fields) (fields.resolve table)
  | .listed fields => compileMembers_ok hslot fields
  | .deferred name => hslot name

theorem compileMembers_ok (hslot : ∀ s, Derives table (slot s) (table.fields s)) :
    ∀ fields : List Field, Derives table (compileMembers slot fields) fields
  | [], c, c', members, hrun => by
    cases hrun
    exact ⟨[], rfl, .nil⟩
  | field :: rest, c, c', members, hrun => by
    rw [compileMembers] at hrun
    split at hrun
    · cases hrun
    · rename_i member c₁ hfield
      generalize hrest : compileMembers slot rest c₁ = outcome at hrun
      obtain ⟨_ | members, c₂⟩ := outcome
      · cases hrun
      · cases hrun
        obtain ⟨type, rfl, hderived⟩ := compileField_ok hslot field _ _ _ hfield
        obtain ⟨types, rfl, hderived'⟩ := compileMembers_ok hslot rest _ _ _ hrest
        exact ⟨type :: types, rfl, hderived.append hderived'⟩

theorem compileField_ok (hslot : ∀ s, Derives table (slot s) (table.fields s)) :
    ∀ (field : Field) (c c' : Compiler) (member : Member),
      compileField slot field c = (.ok member, c') →
        ∃ type, member = field.member type ∧ Compiles table c [field.type] [type] c'
  | .mk wireName type required, c, c', member, hrun => by
    rw [compileField] at hrun
    generalize htype : compileWith slot type c = outcome at hrun
    obtain ⟨_ | t, c₁⟩ := outcome
    · cases hrun
    · cases hrun
      exact ⟨t, rfl, compileWith_ok hslot type _ _ _ htype⟩

end

theorem openSlot_ok (depth : Nat) (s : String) :
    Derives table (openSlot table depth s) (table.fields s) := by
  induction depth generalizing s with
  | zero =>
    intro c c' members hrun
    cases hrun
  | succ depth ih => exact compileMembers_ok ih (table.fields s)

/-- Every successful run has a derivation. -/
theorem compile_ok {d : Descriptor} {c c' : Compiler} {t : TypeExpr}
    (hrun : c.compile table d = (.ok t, c')) : Compiles table c [d] [t] c' :=
  compileWith_ok (openSlot_ok _) d c c' t hrun

end

end Compiler

end TypedRpc
