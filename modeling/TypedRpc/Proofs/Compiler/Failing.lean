import TypedRpc.Proofs.Compiler.CallDepth
import TypedRpc.Proofs.Descriptor.Trail

/-!
# Failed compilations

`Stops` derives in which state a compiler is left that fails at one descriptor of a list: those before it have been
compiled, and a trail leads from it down to a composite that is written out where no more of them fit inside each
other. Every run that fails has a derivation (`compile_stops`), so what failed runs leave behind is shown by
induction on derivations, and the trail says why they failed (`compile_error`).
-/

namespace TypedRpc.Compiler

open TypedRpc.TypeScript TypedRpc.Descriptor

/-- A compiler fails at one of the descriptors, on this trail from it downwards, and is left in the second state. -/
inductive Stops (table : SlotTable) : Compiler → List Descriptor → List Descriptor → Compiler → Prop where
  | later {c c₁ c' : Compiler} {d : Descriptor} {t : TypeExpr} {ds trail : List Descriptor}
      (first : Compiles table c [d] [t] c₁) (rest : Stops table c₁ ds trail c') : Stops table c (d :: ds) trail c'
  /-- Around the composite as many are written out as there may be. -/
  | limit {c : Compiler} {d : Descriptor} {ds : List Descriptor} (hcomposite : d.isComposite = true)
      (hpath : d.path = []) (hlimit : inlineLimit ≤ c.inlineDepth) : Stops table c (d :: ds) [d] c
  | layer {c c' : Compiler} {d part : Descriptor} {ds trail : List Descriptor} (hcomposite : d.isComposite = false)
      (hparts : d.parts table = [part]) (run : Stops table c [part] trail c') :
      Stops table c (d :: ds) (d :: trail) c'
  | inline {c c' : Compiler} {d : Descriptor} {ds trail : List Descriptor} (hcomposite : d.isComposite = true)
      (hpath : d.path = [])
      (body : Stops table { c with inlineDepth := c.inlineDepth + 1 } (d.parts table) trail c') :
      Stops table c (d :: ds) (d :: trail) { c' with inlineDepth := c'.inlineDepth - 1 }
  /-- A named composite is left without a definition. -/
  | abandon {c c₁ c' : Compiler} {d : Descriptor} {name : String} {ds trail : List Descriptor}
      (hpath : d.path ≠ []) (hassign : c.assignName d.path = (name, c₁)) (hkey : d.key ∉ c₁.processing)
      (hname : name ∉ c₁.definitions.map (·.name)) (body : Stops table (c₁.enter d.key) (d.parts table) trail c') :
      Stops table c (d :: ds) (d :: trail) (c'.leave d.key)

namespace Stops

variable {table : SlotTable} {c c' : Compiler} {ds trail : List Descriptor}

theorem append (h : Stops table c ds trail c') (more : List Descriptor) : Stops table c (ds ++ more) trail c' := by
  induction h with
  | later first _ ih => exact .later first ih
  | limit hcomposite hpath hlimit => exact .limit hcomposite hpath hlimit
  | layer hcomposite hparts run _ => exact .layer hcomposite hparts run
  | inline hcomposite hpath body _ => exact .inline hcomposite hpath body
  | abandon hpath hassign hkey hname body _ => exact .abandon hpath hassign hkey hname body

/-- The trail begins with one of the descriptors. -/
theorem exists_trail (h : Stops table c ds trail c') :
    ∃ d rest, trail = d :: rest ∧ d ∈ ds ∧ Trail table c.processing (d :: rest) := by
  induction h with
  | later first _ ih =>
    obtain ⟨d, rest, rfl, hd, htrail⟩ := ih
    rw [first.grows.processing] at htrail
    exact ⟨d, rest, rfl, List.mem_cons_of_mem _ hd, htrail⟩
  | @limit _ d _ _ hpath _ => exact ⟨d, [], rfl, List.mem_cons_self, .last fun hne => absurd hpath hne⟩
  | @layer _ _ d part _ _ hcomposite hparts _ ih =>
    obtain ⟨part, rest, rfl, hpart, htrail⟩ := ih
    have hpath : d.path = [] := by
      by_contra hne
      cases (isComposite_of_path hne).symm.trans hcomposite
    exact ⟨d, _, rfl, List.mem_cons_self, .pass hpath (hparts ▸ hpart) htrail⟩
  | @inline _ _ d _ _ _ hpath _ ih =>
    obtain ⟨part, rest, rfl, hpart, htrail⟩ := ih
    exact ⟨d, _, rfl, List.mem_cons_self, .pass hpath hpart htrail⟩
  | @abandon _ _ _ d _ _ _ hpath hassign hkey _ _ ih =>
    obtain ⟨part, rest, rfl, hpart, htrail⟩ := ih
    have hprocessing := (Grows.of_assignName hassign).processing
    rw [hprocessing] at hkey
    rw [enter, hprocessing] at htrail
    exact ⟨d, _, rfl, List.mem_cons_self, .enter hpath hkey hpart htrail⟩

/-- Too many composites on the trail are written out. -/
theorem nesting_lt (h : Stops table c ds trail c') : inlineLimit < c.inlineDepth + nesting trail := by
  induction h with
  | later first _ ih => rwa [first.grows.inlineDepth] at ih
  | limit hcomposite hpath hlimit =>
    rw [nesting_cons_of_composite hcomposite hpath]
    omega
  | layer hcomposite _ _ ih => rwa [nesting_cons_of_not_composite hcomposite]
  | inline hcomposite hpath _ ih =>
    rw [nesting_cons_of_composite hcomposite hpath]
    dsimp only at ih
    omega
  | abandon hpath hassign _ _ _ ih =>
    rw [nesting_cons_of_path hpath]
    rwa [enter, (Grows.of_assignName hassign).inlineDepth] at ih

end Stops

/-- A trail from the descriptor on which more composites are written out than this depth leaves room for. -/
def OverDeep (table : SlotTable) (depth : Nat) (d : Descriptor) (trail : List Descriptor) : Prop :=
  trail.head? = some d ∧ Trail table [] trail ∧ inlineLimit < depth + nesting trail

theorem Stops.overDeep {table : SlotTable} {c c' : Compiler} {d : Descriptor} {trail : List Descriptor}
    (h : Stops table c [d] trail c') (hprocessing : c.processing = []) : OverDeep table c.inlineDepth d trail := by
  obtain ⟨first, rest, rfl, hfirst, htrail⟩ := h.exists_trail
  obtain rfl := List.mem_singleton.mp hfirst
  exact ⟨rfl, hprocessing ▸ htrail, h.nesting_lt⟩

/-- What each step keeps, a run that fails keeps. -/
theorem Law.stops {R : Compiler → Compiler → Prop} (law : Law R) {table : SlotTable} {c c' : Compiler}
    {ds trail : List Descriptor} (h : Stops table c ds trail c') : R c c' := by
  induction h with
  | later first _ ih => exact law.trans (law.compiles first) ih
  | limit => exact law.refl _
  | layer _ _ _ ih => exact ih
  | inline _ _ _ ih => exact law.inline ih
  | @abandon c c₁ c' d name _ _ _ hassign _ _ _ ih =>
    have hassigned := law.assign c d.path
    rw [hassign] at hassigned
    exact law.trans hassigned (law.abandon ih)

theorem Stops.grows {table : SlotTable} {c c' : Compiler} {ds trail : List Descriptor}
    (h : Stops table c ds trail c') : Grows c c' :=
  Grows.law.stops h

/-! ## Failed runs have derivations -/

/-- When the run fails, and not because too many slots would have to be open, there is a derivation of it. -/
def Halts (table : SlotTable) (run : Step (List Member)) (fields : List Field) : Prop :=
  ∀ c c' e, e ≠ .unbounded → run c = (.error e, c') →
    e = .nestedTooDeep ∧ ∃ trail, Stops table c (fields.map Field.type) trail c'

section

variable {table : SlotTable} {c c' : Compiler} {e : GenerationError} {d : Descriptor} {body : Step (List Member)}

theorem expandInline_stops (hcomposite : d.isComposite = true) (hpath : d.path = [])
    (hbody : Halts table body (d.fields table)) (hbounded : e ≠ .unbounded)
    (hrun : expandInline body c = (.error e, c')) : e = .nestedTooDeep ∧ ∃ trail, Stops table c [d] trail c' := by
  unfold expandInline at hrun
  split at hrun
  · rename_i hlimit
    cases hrun
    exact ⟨rfl, _, .limit hcomposite hpath hlimit⟩
  · generalize hfields : body { c with inlineDepth := c.inlineDepth + 1 } = outcome at hrun
    obtain ⟨_ | members, c₁⟩ := outcome
    · cases hrun
      obtain ⟨rfl, trail, hstops⟩ := hbody _ _ _ hbounded hfields
      rw [← parts_eq_types hcomposite] at hstops
      exact ⟨rfl, _, .inline hcomposite hpath hstops⟩
    · cases hrun

theorem expandNamed_stops (hpath : d.path ≠ []) (hbody : Halts table body (d.fields table))
    (hbounded : e ≠ .unbounded) (hrun : expandNamed d.path body c = (.error e, c')) :
    e = .nestedTooDeep ∧ ∃ trail, Stops table c [d] trail c' := by
  unfold expandNamed at hrun
  generalize hassign : c.assignName d.path = assigned at hrun
  obtain ⟨name, c₁⟩ := assigned
  dsimp only at hrun
  split at hrun
  · cases hrun
  · rename_i hnew
    have hnew : d.key ∉ c₁.processing ∧ name ∉ c₁.definitions.map (·.name) := by
      rw [← definition?_isSome]
      simpa [not_or, Descriptor.key] using hnew
    split at hrun
    · rename_i hfields
      cases hrun
      obtain ⟨rfl, trail, hstops⟩ := hbody _ _ _ hbounded hfields
      rw [← parts_eq_types (isComposite_of_path hpath)] at hstops
      exact ⟨rfl, _, .abandon hpath hassign hnew.1 hnew.2 hstops⟩
    · cases hrun

variable {slot : String → Step (List Member)}

mutual

theorem compileWith_stops (hslot : ∀ s, Halts table (slot s) (table.fields s))
    (hderives : ∀ s, Derives table (slot s) (table.fields s)) :
    ∀ (d : Descriptor) (c c' : Compiler) (e : GenerationError), e ≠ .unbounded →
      compileWith slot d c = (.error e, c') → e = .nestedTooDeep ∧ ∃ trail, Stops table c [d] trail c'
  | .scalar _, _, _, _, _, hrun | .timestamp, _, _, _, _, hrun | .unknown, _, _, _, _, hrun => by
    cases hrun
  | .sequence element, c, c', e, hbounded, hrun => by
    rw [compileWith] at hrun
    generalize helement : compileWith slot element c = outcome at hrun
    obtain ⟨_ | t, c₁⟩ := outcome
    · cases hrun
      obtain ⟨rfl, trail, hstops⟩ := compileWith_stops hslot hderives element _ _ _ hbounded helement
      exact ⟨rfl, _, .layer rfl rfl hstops⟩
    · cases hrun
  | .optional inner, c, c', e, hbounded, hrun => by
    obtain ⟨rfl, trail, hstops⟩ := compileWith_stops hslot hderives inner c c' e hbounded hrun
    exact ⟨rfl, _, .layer rfl rfl hstops⟩
  | .wrapper inner, c, c', e, hbounded, hrun => by
    obtain ⟨rfl, trail, hstops⟩ := compileWith_stops hslot hderives inner c c' e hbounded hrun
    exact ⟨rfl, _, .layer rfl rfl hstops⟩
  | .named name fields, c, c', e, hbounded, hrun => by
    have hfields := compileFields_stops hslot hderives fields
    rw [compileWith] at hrun
    split at hrun
    · rename_i hpath
      exact expandInline_stops (d := .named name fields) rfl hpath hfields hbounded hrun
    · rename_i first rest hpath
      have hrun : expandNamed (path (.named name fields)) (compileFields slot fields) c = (.error e, c') := by
        rwa [path, hpath]
      have hne : path (.named name fields) ≠ [] := by
        simp [path, hpath]
      exact expandNamed_stops hne hfields hbounded hrun
  | .inline fields, c, c', e, hbounded, hrun =>
    expandInline_stops (d := .inline fields) rfl rfl (compileFields_stops hslot hderives fields) hbounded hrun

theorem compileFields_stops (hslot : ∀ s, Halts table (slot s) (table.fields s))
    (hderives : ∀ s, Derives table (slot s) (table.fields s)) :
    ∀ fields : FieldList, Halts table (compileFields slot fields) (fields.resolve table)
  | .listed fields => compileMembers_stops hslot hderives fields
  | .deferred name => hslot name

theorem compileMembers_stops (hslot : ∀ s, Halts table (slot s) (table.fields s))
    (hderives : ∀ s, Derives table (slot s) (table.fields s)) :
    ∀ fields : List Field, Halts table (compileMembers slot fields) fields
  | [], c, c', e, _, hrun => by
    cases hrun
  | field :: rest, c, c', e, hbounded, hrun => by
    rw [compileMembers] at hrun
    split at hrun
    · rename_i hfield
      cases hrun
      obtain ⟨rfl, trail, hstops⟩ := compileField_stops hslot hderives field _ _ _ hbounded hfield
      exact ⟨rfl, trail, hstops.append _⟩
    · rename_i member c₁ hfield
      obtain ⟨_, _, hfirst⟩ := compileField_ok hderives field _ _ _ hfield
      generalize hrest : compileMembers slot rest c₁ = outcome at hrun
      obtain ⟨_ | members, c₂⟩ := outcome
      · cases hrun
        obtain ⟨rfl, trail, hstops⟩ := compileMembers_stops hslot hderives rest _ _ _ hbounded hrest
        exact ⟨rfl, trail, .later hfirst hstops⟩
      · cases hrun

theorem compileField_stops (hslot : ∀ s, Halts table (slot s) (table.fields s))
    (hderives : ∀ s, Derives table (slot s) (table.fields s)) :
    ∀ (field : Field) (c c' : Compiler) (e : GenerationError), e ≠ .unbounded →
      compileField slot field c = (.error e, c') →
        e = .nestedTooDeep ∧ ∃ trail, Stops table c [field.type] trail c'
  | .mk wireName type required, c, c', e, hbounded, hrun => by
    rw [compileField] at hrun
    generalize htype : compileWith slot type c = outcome at hrun
    obtain ⟨_ | t, c₁⟩ := outcome
    · cases hrun
      exact compileWith_stops hslot hderives type _ _ _ hbounded htype
    · cases hrun

end

theorem openSlot_stops (depth : Nat) (s : String) : Halts table (openSlot table depth s) (table.fields s) := by
  induction depth generalizing s with
  | zero =>
    intro c c' e hbounded hrun
    cases hrun
    exact absurd rfl hbounded
  | succ depth ih => exact compileMembers_stops ih (openSlot_ok depth) (table.fields s)

/-- Every run that fails has a derivation. -/
theorem compile_stops (hrun : c.compile table d = (.error e, c')) :
    e = .nestedTooDeep ∧ ∃ trail, Stops table c [d] trail c' := by
  have hbounded : e ≠ .unbounded := by
    rintro rfl
    exact compile_bounded (congrArg Prod.fst hrun)
  exact compileWith_stops (openSlot_stops _) (openSlot_ok _) d c c' e hbounded hrun

/-- A compilation that fails has met a trail on which too many composites are written out. -/
theorem compile_error (hprocessing : c.processing = []) (hdepth : c.inlineDepth = 0)
    (hrun : c.compile table d = (.error e, c')) :
    e = .nestedTooDeep ∧ ∃ rest, Trail table [] (d :: rest) ∧ inlineLimit < nesting (d :: rest) := by
  obtain ⟨rfl, trail, hstops⟩ := compile_stops hrun
  obtain ⟨hhead, htrail, hnesting⟩ := hstops.overDeep hprocessing
  obtain ⟨rest, rfl⟩ := List.head?_eq_some_iff.mp hhead
  rw [hdepth, Nat.zero_add] at hnesting
  exact ⟨rfl, rest, htrail, hnesting⟩

end

end TypedRpc.Compiler
