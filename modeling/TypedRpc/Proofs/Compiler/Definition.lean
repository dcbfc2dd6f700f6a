import TypedRpc.Proofs.Compiler.Completeness
import TypedRpc.Proofs.Compiler.References

/-!
# Asking for a definition

A definition is asked of what stands behind the layers that may be missing. `defineType` compiles that and goes by the
form of the answer; `defineByName` looks at the name first, and takes the answer for the name of a definition. The two
are the same, because just what has a name is answered by one. Where no composite is under construction, what is
referred to is also defined. Main statement: `defineType_spec`.
-/

namespace TypedRpc

open TypedRpc.TypeScript

namespace Descriptor

/-- What stands behind the outer layers that may be missing. -/
def bare : Descriptor → Descriptor
  | .optional inner | .wrapper inner => inner.bare
  | d => d

theorem isOptional_bare (d : Descriptor) : d.bare.isOptional = false := by
  fun_induction bare d with
  | case1 inner ih => exact ih
  | case2 inner ih => exact ih
  | case3 d hoptional hwrapper =>
    cases d with
    | optional inner => exact absurd rfl (hoptional inner)
    | wrapper inner => exact absurd rfl (hwrapper inner)
    | _ => rfl

/-- There is no short name exactly where there is no path, as for a name that is made of separators alone. -/
theorem typeName_eq_empty {d : Descriptor} : d.typeName = "" ↔ d.path = [] := by
  refine ⟨fun hempty => ?_, fun hpath => ?_⟩
  · by_contra hpath
    cases d with
    | named name fields => exact scopedName?_ne_empty (scopedName?_path hpath) hempty
    | _ => exact hpath rfl
  · cases d with
    | named name fields =>
      change segments name = [] at hpath
      rw [typeName, TypeScript.typeName, hpath]
      rfl
    | _ => rfl

end Descriptor

namespace Compiler

/-- The definition of a named composite, looked for through layers that may be missing. Its short name says whether
it has one, and the type that it compiles to says under which name. -/
def defineByName (table : SlotTable) : Descriptor → Step Definition
  | .optional inner, c => defineByName table inner c
  | .wrapper inner, c => defineByName table inner c
  | d, c =>
    if d.typeName = "" then
      match c.compile table d with
      | (.error e, c) => (.error e, c)
      | (.ok t, c) => (.error (.unnamed t), c)
    else
      match c.compile table d with
      | (.error e, c) => (.error e, c)
      | (.ok t, c) =>
        match c.definition? t.print with
        | some definition => (.ok definition, c)
        | none => (.error (.unnamed t), c)

section

variable {table : SlotTable} {c c' : Compiler} {d : Descriptor} {t : TypeExpr}

theorem defineType_bare : defineType table d c = defineType table d.bare c := by
  fun_induction Descriptor.bare d with
  | case1 inner ih => exact ih
  | case2 inner ih => exact ih
  | case3 => rfl

theorem defineByName_bare : defineByName table d c = defineByName table d.bare c := by
  fun_induction Descriptor.bare d with
  | case1 inner ih => exact ih
  | case2 inner ih => exact ih
  | case3 => rfl

/-! ## Answers to what has a name and to what has none -/

/-- A named composite is answered by a name. -/
theorem Compiles.exists_name (h : Compiles table c [d] [t] c') (hpath : d.path ≠ []) :
    ∃ name, t = .reference name := by
  cases h with
  | keyword hword _ => exact absurd (Descriptor.path_of_keyword hword) hpath
  | sequence _ | optional _ | wrapper _ => exact absurd rfl hpath
  | inline _ hnone _ _ _ => exact absurd hnone hpath
  | known | expand => exact ⟨_, rfl⟩

/-- What has no name is not answered by one, unless it is a layer around something. -/
theorem Compiles.not_reference (h : Compiles table c [d] [t] c') (hbare : d.isOptional = false) (hpath : d.path = [])
    (name : String) : t ≠ .reference name := by
  rintro rfl
  cases h with
  | optional _ | wrapper _ => cases hbare
  | known hne | expand hne => exact hne hpath

/-- Where nothing is under construction, the name that is answered has a definition. -/
theorem Compiles.exists_definition {name : String} (h : Compiles table c [d] [.reference name] c')
    (hbare : d.isOptional = false) (hprocessing : c.processing = []) :
    ∃ definition, c'.definition? name = some definition := by
  refine Option.isSome_iff_exists.mp (definition?_isSome.mpr ?_)
  cases h with
  | optional _ | wrapper _ => cases hbare
  | known _ hassign hknown rest =>
    cases rest
    have hprocessing' : c'.processing = [] := (Grows.of_assignName hassign).processing.trans hprocessing
    refine hknown.resolve_left ?_
    rw [hprocessing']
    exact List.not_mem_nil
  | expand _ _ _ _ _ rest =>
    cases rest
    exact name_mem_define _ _

/-! ## The two ways to ask -/

/-- Whatever is under construction, it is the same to look at the short name first. -/
theorem defineType_eq_defineByName : defineType table d c = defineByName table d c := by
  rw [defineType_bare, defineByName_bare]
  have hbare : d.bare.isOptional = false := d.isOptional_bare
  generalize d.bare = e at hbare ⊢
  generalize hrun : c.compile table e = outcome
  unfold defineType defineByName
  split
  · cases hbare
  · cases hbare
  · obtain ⟨err | t, c'⟩ := outcome
    · simp only [hrun, ite_self]
    · by_cases hpath : e.path = []
      · have hform : ∀ name, t ≠ .reference name := (compile_ok hrun).not_reference hbare hpath
        simp only [hrun, Descriptor.typeName_eq_empty, hpath, if_true]
      · obtain ⟨name, rfl⟩ := (compile_ok hrun).exists_name hpath
        cases hdefinition : c'.definition? name <;>
          simp only [hrun, Descriptor.typeName_eq_empty, hpath, if_false, TypeExpr.print, hdefinition]

theorem defineType_of_error {e : GenerationError} (hbare : d.isOptional = false)
    (hrun : c.compile table d = (.error e, c')) : defineType table d c = (.error e, c') := by
  unfold defineType
  split
  · cases hbare
  · cases hbare
  · simp only [hrun]

theorem defineType_of_unnamed (hbare : d.isOptional = false) (hpath : d.path = [])
    (hrun : c.compile table d = (.ok t, c')) : defineType table d c = (.error (.unnamed t), c') := by
  have hform : ∀ name, t ≠ .reference name := (compile_ok hrun).not_reference hbare hpath
  unfold defineType
  split
  · cases hbare
  · cases hbare
  · simp only [hrun]

theorem defineType_of_defined {name : String} {definition : Definition} (hbare : d.isOptional = false)
    (hrun : c.compile table d = (.ok (.reference name), c')) (hdefinition : c'.definition? name = some definition) :
    defineType table d c = (.ok definition, c') := by
  unfold defineType
  split
  · cases hbare
  · cases hbare
  · simp only [hrun, hdefinition]

/-- **A definition is answered exactly where a named composite compiles.** Let no composite be under construction. What
stands behind the outer layers is compiled, and the compiler is left as that leaves it. If it is a named composite and
compiles, the answer is the definition in the table under the type that it compiles to, and there is always one. If it
compiles but has no name, the call fails and says to what it compiles; if it does not compile, the call fails for the
same reason. A name of separators alone has no segments and no short name, so it is the same to look at that first. -/
theorem defineType_spec (hprocessing : c.processing = []) :
    defineType table d c = defineByName table d c ∧
    let e := d.bare
    let compiled := c.compile table e
    let defined := defineType table d c
    defined.2 = compiled.2 ∧
    ((∃ definition, defined.1 = .ok definition) ↔ e.path ≠ [] ∧ ∃ t, compiled.1 = .ok t) ∧
    (∀ t, compiled.1 = .ok t → e.path ≠ [] →
      ∃ definition, compiled.2.definition? t.print = some definition ∧ defined.1 = .ok definition) ∧
    (∀ t, compiled.1 = .ok t → e.path = [] → defined.1 = .error (.unnamed t)) ∧
    (∀ err, compiled.1 = .error err → defined.1 = .error err) ∧
    (e.path = [] ↔ e.typeName = "") := by
  refine ⟨defineType_eq_defineByName, ?_⟩
  rw [defineType_bare]
  have hbare : d.bare.isOptional = false := d.isOptional_bare
  generalize d.bare = e at hbare ⊢
  generalize hrun : c.compile table e = outcome
  obtain ⟨err | t, c'⟩ := outcome
  · have hdefined := defineType_of_error hbare hrun
    simp [hrun, hdefined, Descriptor.typeName_eq_empty]
  · by_cases hpath : e.path = []
    · have hdefined := defineType_of_unnamed hbare hpath hrun
      simp [hrun, hdefined, Descriptor.typeName_eq_empty, hpath]
    · obtain ⟨name, rfl⟩ := (compile_ok hrun).exists_name hpath
      obtain ⟨definition, hdefinition⟩ := (compile_ok hrun).exists_definition hbare hprocessing
      have hdefined := defineType_of_defined hbare hrun hdefinition
      simp [hrun, hdefined, Descriptor.typeName_eq_empty, hpath, TypeExpr.print, hdefinition]

end

/-- A greeting behind two layers, asked for after another type has taken its short name, and a composite with a name
of separators alone. -/
theorem defineType_spec_greeting :
    let greeting (name : String) : Descriptor := .named name (.listed [.plain "text" .string])
    let d : Descriptor := .optional (.wrapper (greeting "app::pkg::Greeting"))
    let separators : Descriptor := .wrapper (greeting "::.")
    let c := (Compiler.empty.compile [] (greeting "lib::pkg::Greeting")).2
    c.processing = [] ∧
    (∃ definition, (defineType [] d c).1 = .ok definition ∧
      definition.print = "type app_pkg_Greeting = \x7b\n  text: string\n\x7d") ∧
    ∃ t, (defineType [] separators c).1 = .error (.unnamed t) ∧ t.print = "\x7b text: string \x7d" := by
  intro greeting d separators c
  have hprocessing : c.processing = [] := by
    decide +kernel
  have hprint : ((c.compile [] d.bare).2.definition? "app_pkg_Greeting").map Definition.print =
      some "type app_pkg_Greeting = \x7b\n  text: string\n\x7d" := by
    decide +kernel
  have hname : (c.compile [] d.bare).1.toOption.map TypeExpr.print = some "app_pkg_Greeting" := by
    decide +kernel
  have hinline : (c.compile [] separators.bare).1.toOption.map TypeExpr.print = some "\x7b text: string \x7d" := by
    decide +kernel
  obtain ⟨t, hrun, hreference⟩ := exists_compile hname
  obtain ⟨t', hrun', hobject⟩ := exists_compile hinline
  obtain ⟨-, -, -, hfound, -⟩ := @defineType_spec [] c d hprocessing
  obtain ⟨-, -, -, -, hunnamed, -⟩ := @defineType_spec [] c separators hprocessing
  obtain ⟨definition, hdefinition, hdefined⟩ := hfound t (congrArg Prod.fst hrun) (by decide +kernel)
  rw [hreference] at hdefinition
  rw [hdefinition] at hprint
  refine ⟨hprocessing, ⟨definition, hdefined, Option.some.inj hprint⟩, t', ?_, hobject⟩
  exact hunnamed t' (congrArg Prod.fst hrun') (by decide +kernel)

end Compiler

end TypedRpc
