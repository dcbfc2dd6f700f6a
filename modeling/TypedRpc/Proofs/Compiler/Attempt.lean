import TypedRpc.Proofs.Compiler.Derivation

/-!
# Attempts

A run on given descriptors, whether it succeeds or not, gives out names for composites that they reach only, and
defines a composite with the answers to its parts only. `RunLaw` lists these steps, and the recursion over descriptors
is done once, in `RunLaw.compile`: what each step keeps, a whole run keeps.
-/

namespace TypedRpc.Compiler

open TypedRpc.TypeScript

/-- A relation between the state before and the state after that each step of a run on these descriptors keeps. -/
structure RunLaw (table : SlotTable) (roots : List Descriptor) (R : Compiler → Compiler → Prop) : Prop where
  refl (c : Compiler) : R c c
  trans {a b c : Compiler} : R a b → R b c → R a c
  assign {d : Descriptor} : Descriptor.NamedFrom table roots d → ∀ c : Compiler, R c (c.assignName d.path).2
  inline {c c' : Compiler} : R { c with inlineDepth := c.inlineDepth + 1 } c' →
    R c { c' with inlineDepth := c'.inlineDepth - 1 }
  /-- The fields of a named composite could not be compiled. -/
  abandon {c c' : Compiler} {key : String} : R (c.enter key) c' → R c (c'.leave key)
  /-- The fields of a named composite have been compiled, and its definition is added. -/
  complete {c c' : Compiler} {d : Descriptor} {name : String} {types : List TypeExpr} :
    Descriptor.NamedFrom table roots d → c.names.lookup d.key = some name →
      Compiles table (c.enter d.key) (d.parts table) types c' → R (c.enter d.key) c' →
        R c ((c'.leave d.key).define ⟨name, Field.members (d.fields table) types⟩)

namespace RunLaw

variable {table : SlotTable} {roots : List Descriptor} {R : Compiler → Compiler → Prop}
  {slot : String → Step (List Member)}

theorem expandInline (law : RunLaw table roots R) {body : Step (List Member)} (hbody : ∀ c, R c (body c).2)
    (c : Compiler) : R c (Compiler.expandInline body c).2 := by
  unfold Compiler.expandInline
  split
  · exact law.refl c
  · exact law.inline (hbody _)

theorem expandNamed (law : RunLaw table roots R) {d : Descriptor} {body : Step (List Member)}
    (hd : Descriptor.NamedFrom table roots d) (hderives : Derives table body (d.fields table))
    (hbody : ∀ c, R c (body c).2) (c : Compiler) : R c (Compiler.expandNamed d.path body c).2 := by
  have hassign := law.assign hd c
  have hname := lookup_assignName c d.path
  unfold Compiler.expandNamed
  generalize c.assignName d.path = assigned at hassign hname
  obtain ⟨name, c₁⟩ := assigned
  dsimp only
  split
  · exact hassign
  · have hfields := hbody (c₁.enter (keyOf d.path))
    refine law.trans hassign ?_
    split <;> rename_i hrun <;> rw [hrun] at hfields
    · exact law.abandon hfields
    · obtain ⟨types, rfl, hcompiles⟩ := hderives _ _ _ hrun
      rw [← Descriptor.parts_eq_types (Descriptor.isComposite_of_path hd.1)] at hcompiles
      exact law.complete hd hname hcompiles hfields

/-- What opens a slot answers its fields, and keeps the law where they are reached. -/
structure Opens (table : SlotTable) (roots : List Descriptor) (R : Compiler → Compiler → Prop)
    (slot : String → Step (List Member)) : Prop where
  derives (s : String) : Derives table (slot s) (table.fields s)
  keeps (s : String) : Descriptor.FieldsReachedFrom table roots (table.fields s) → ∀ c, R c (slot s c).2

mutual

theorem compileWith (law : RunLaw table roots R) (hslot : Opens table roots R slot) :
    ∀ d : Descriptor, Descriptor.ReachedFrom table roots d → ∀ c, R c (Compiler.compileWith slot d c).2
  | .scalar _, _, c | .timestamp, _, c | .unknown, _, c => law.refl c
  | .sequence element, hd, c => law.compileWith hslot element (hd.part element (List.mem_singleton.mpr rfl)) c
  | .optional inner, hd, c => law.compileWith hslot inner (hd.part inner (List.mem_singleton.mpr rfl)) c
  | .wrapper inner, hd, c => law.compileWith hslot inner (hd.part inner (List.mem_singleton.mpr rfl)) c
  | .named name fields, hd, c => by
    have hbody := law.compileFields hslot fields hd.fields
    rw [Compiler.compileWith]
    split
    · exact law.expandInline hbody c
    · rename_i first rest hpath
      have hnamed : Descriptor.NamedFrom table roots (.named name fields) := by
        refine ⟨?_, hd⟩
        simp [Descriptor.path, hpath]
      have hkeeps := law.expandNamed hnamed (compileFields_ok hslot.derives fields) hbody c
      rwa [Descriptor.path, hpath] at hkeeps
  | .inline fields, hd, c => law.expandInline (law.compileFields hslot fields hd.fields) c

theorem compileFields (law : RunLaw table roots R) (hslot : Opens table roots R slot) :
    ∀ fields : FieldList, Descriptor.FieldsReachedFrom table roots (fields.resolve table) →
      ∀ c, R c (Compiler.compileFields slot fields c).2
  | .listed fields, hfields, c => law.compileMembers hslot fields hfields c
  | .deferred name, hfields, c => hslot.keeps name hfields c

theorem compileMembers (law : RunLaw table roots R) (hslot : Opens table roots R slot) :
    ∀ fields : List Field, Descriptor.FieldsReachedFrom table roots fields →
      ∀ c, R c (Compiler.compileMembers slot fields c).2
  | [], _, c => law.refl c
  | field :: rest, hfields, c => by
    obtain ⟨hfirst, hrest⟩ := List.forall_mem_cons.mp hfields
    have hfield := law.compileField hslot field hfirst c
    rw [Compiler.compileMembers]
    split <;> rename_i hrun <;> rw [hrun] at hfield
    · exact hfield
    · exact law.trans hfield (law.compileMembers hslot rest hrest _)

theorem compileField (law : RunLaw table roots R) (hslot : Opens table roots R slot) :
    ∀ field : Field, Descriptor.ReachedFrom table roots field.type →
      ∀ c, R c (Compiler.compileField slot field c).2
  | .mk _ type _, hfield, c => law.compileWith hslot type hfield c

end

theorem openSlot (law : RunLaw table roots R) (depth : Nat) :
    Opens table roots R (Compiler.openSlot table depth) := by
  induction depth with
  | zero => exact ⟨openSlot_ok 0, fun _ _ c => law.refl c⟩
  | succ depth ih => exact ⟨openSlot_ok _, fun s hfields c => law.compileMembers ih (table.fields s) hfields c⟩

/-- What each step keeps, a compilation keeps. -/
theorem compile (law : RunLaw table roots R) {d : Descriptor} (hd : Descriptor.ReachedFrom table roots d)
    (c : Compiler) : R c (c.compile table d).2 :=
  law.compileWith (law.openSlot _) d hd c

theorem defineType (law : RunLaw table roots R) (d : Descriptor) (hd : Descriptor.ReachedFrom table roots d)
    (c : Compiler) : R c (Compiler.defineType table d c).2 := by
  fun_induction Compiler.defineType table d c with
  | case1 inner c ih | case2 inner c ih => exact ih (hd.part inner (List.mem_singleton.mpr rfl))
  | case3 d c _ _ e c' hrun => simpa [hrun] using law.compile hd c
  | case4 d c _ _ name c' hrun definition _ => simpa [hrun] using law.compile hd c
  | case5 d c _ _ name c' hrun _ => simpa [hrun] using law.compile hd c
  | case6 d c _ _ type c' _ hrun => simpa [hrun] using law.compile hd c

end RunLaw

/-- Where a law does not ask what the steps are about, every run keeps it. -/
theorem Law.runLaw {R : Compiler → Compiler → Prop} (law : Law R) (table : SlotTable) (roots : List Descriptor) :
    RunLaw table roots R where
  refl := law.refl
  trans := law.trans
  assign _ c := law.assign c _
  inline := law.inline
  abandon := law.abandon
  complete _ hname _ h := law.complete hname h

end TypedRpc.Compiler
