import TypedRpc.Proofs.Compiler.Attempt
import TypedRpc.Proofs.Compiler.Rendering
import TypedRpc.Proofs.TypeScript.TypeName

/-!
# Sessions

A session is a sequence of calls on one compiler, some of which may fail. Each call only adds to what is known
(`call_extends`). Main statement: after any session no two keys have one TypeScript name, and where no segment holds
a colon this means that no two paths have.
-/

namespace TypedRpc.Compiler

open TypedRpc.TypeScript

/-- A call on a compiler. -/
inductive Call where
  | compile (d : Descriptor)
  | define (d : Descriptor)

/-- The descriptor that a call is about. -/
def Call.type : Call → Descriptor
  | .compile d | .define d => d

/-- What a call answers. -/
inductive Answer where
  | token (type : TypeExpr)
  | definition (definition : Definition)
  | failure (error : GenerationError)

/-- Answers a call. -/
def Call.run (table : SlotTable) : Call → Compiler → Answer × Compiler
  | .compile d, c =>
    match c.compile table d with
    | (.ok type, c) => (.token type, c)
    | (.error e, c) => (.failure e, c)
  | .define d, c =>
    match defineType table d c with
    | (.ok definition, c) => (.definition definition, c)
    | (.error e, c) => (.failure e, c)

/-- Answers calls one after the other, whether they succeed or not. -/
def session (table : SlotTable) : List Call → Compiler → List Answer × Compiler
  | [], c => ([], c)
  | call :: rest, c =>
    let (answer, c) := call.run table c
    let (answers, c) := session table rest c
    (answer :: answers, c)

/-! ## What a session keeps -/

theorem RunLaw.run {table : SlotTable} {roots : List Descriptor} {R : Compiler → Compiler → Prop}
    (law : RunLaw table roots R) {call : Call} (hcall : Descriptor.ReachedFrom table roots call.type) (c : Compiler) :
    R c (call.run table c).2 := by
  cases call with
  | compile d =>
    have hcompile := law.compile hcall c
    rw [Call.run]
    split <;> rename_i hrun <;> simpa [Call.type, hrun] using hcompile
  | define d =>
    have hdefine := law.defineType d hcall c
    rw [Call.run]
    split <;> rename_i hrun <;> simpa [hrun] using hdefine

theorem RunLaw.session {table : SlotTable} {roots : List Descriptor} {R : Compiler → Compiler → Prop}
    (law : RunLaw table roots R) {calls : List Call}
    (hcalls : ∀ call ∈ calls, Descriptor.ReachedFrom table roots call.type) (c : Compiler) :
    R c (Compiler.session table calls c).2 := by
  induction calls generalizing c with
  | nil => exact law.refl c
  | cons call rest ih =>
    obtain ⟨hcall, hrest⟩ := List.forall_mem_cons.mp hcalls
    exact law.trans (law.run hcall c) (ih hrest _)

theorem Law.session {R : Compiler → Compiler → Prop} (law : Law R) (table : SlotTable) (calls : List Call)
    (c : Compiler) : R c (Compiler.session table calls c).2 :=
  (law.runLaw table (calls.map Call.type)).session
    (fun _ hcall => Descriptor.reachedFrom_self _ (List.mem_map_of_mem hcall)) c

theorem Grows.call (table : SlotTable) (call : Call) (c : Compiler) : Grows c (call.run table c).2 :=
  (Grows.law.runLaw table [call.type]).run (Descriptor.reachedFrom_self _ (List.mem_singleton.mpr rfl)) c

/-- **A call only adds, and leaves its marks as it found them.** This holds in the middle of a run too, and
whether the call succeeds or fails: what is under construction and how deep is as before, names, owners and
definitions are what they were, and each definition keeps its position. -/
theorem call_extends (table : SlotTable) (call : Call) (c : Compiler) :
    let c' := (call.run table c).2
    c'.processing = c.processing ∧ c'.inlineDepth = c.inlineDepth ∧
    (∀ key name, c.names.lookup key = some name → c'.names.lookup key = some name) ∧
    (∀ name key, c.owners.lookup name = some key → c'.owners.lookup name = some key) ∧
    (∀ name definition, c.definition? name = some definition → c'.definition? name = some definition) ∧
    ∀ (i : Nat) definition, c.definitions[i]? = some definition → c'.definitions[i]? = some definition := by
  intro c'
  have hgrows : Grows c c' := .call table call c
  refine ⟨hgrows.processing, hgrows.inlineDepth, ?_, ?_, ?_, ?_⟩
  · intro key name hname
    exact hgrows.lookup_names hname
  · intro name key howner
    exact hgrows.owners.lookup_eq_some howner
  · intro name definition hdefinition
    exact hgrows.definitions.find?_eq_some hdefinition
  · intro i definition hdefinition
    obtain ⟨hi, rfl⟩ := List.getElem?_eq_some_iff.mp hdefinition
    exact List.prefix_iff_getElem?.mp hgrows.definitions i hi

/-- Going on with more calls is one session. -/
theorem session_append_state (table : SlotTable) (calls later : List Call) (c : Compiler) :
    (session table (calls ++ later) c).2 = (session table later (session table calls c).2).2 := by
  induction calls generalizing c with
  | nil => rfl
  | cons call rest ih => exact ih _

theorem session_coherent (table : SlotTable) (calls : List Call) :
    (session table calls .empty).2.Coherent :=
  (Coherent.law.session table calls .empty).2 .empty

/-- A session of successful compilations has a derivation. -/
theorem session_ok {table : SlotTable} {ds : List Descriptor} {ts : List TypeExpr} {c c' : Compiler}
    (h : session table (ds.map .compile) c = (ts.map .token, c')) : Compiles table c ds ts c' := by
  induction ds generalizing ts c with
  | nil =>
    obtain ⟨hts, rfl⟩ := Prod.mk.inj h
    obtain rfl := List.map_eq_nil_iff.mp hts.symm
    exact .nil
  | cons d ds ih =>
    obtain ⟨hts, hstate⟩ := Prod.mk.inj h
    obtain ⟨t, ts, rfl, htoken, hrest⟩ := List.map_eq_cons_iff.mp hts.symm
    cases hrun : c.compile table d with
    | mk outcome c₁ =>
      cases outcome with
      | error e => simp [hrun] at htoken
      | ok type =>
        simp only [hrun, Answer.token.injEq] at htoken hrest hstate
        subst htoken
        exact (compile_ok hrun).append (ih (Prod.ext hrest.symm hstate))

/-- A compilation that succeeds is a session. -/
theorem session_compile (table : SlotTable) (c : Compiler) (d : Descriptor)
    (hsome : (c.compile table d).1.toOption.isSome = true) :
    ∃ t, session table ([d].map .compile) c = ([t].map .token, (c.compile table d).2) := by
  cases hrun : c.compile table d with
  | mk outcome c' =>
    cases outcome with
    | error e => simp [hrun, Except.toOption] at hsome
    | ok t => exact ⟨t, by simp only [List.map_cons, List.map_nil, session, Call.run, hrun]⟩

/-! ## Names are not shared -/

/-- The TypeScript name that a qualified name has got. -/
def nameOf? (c : Compiler) (qualified : String) : Option String :=
  c.names.lookup (keyOf (segments qualified))

/-- A composite that is compiled gets the name by which the answer refers to it. -/
theorem compile_named_ok {table : SlotTable} {c c' : Compiler} {qualified : String} {fields : FieldList}
    {type : TypeExpr} (hpath : segments qualified ≠ [])
    (hrun : c.compile table (.named qualified fields) = (.ok type, c')) :
    ∃ name, type = .reference name ∧ c'.nameOf? qualified = some name := by
  have hrendered := (compile_ok hrun).rendered (extendedBy_naming c') (Nat.le_add_left _ _)
  have htype := (List.forall₂_cons.mp hrendered).1
  rw [renderWith_path (d := .named qualified fields) hpath] at htype
  obtain ⟨name, hname, rfl⟩ := Option.map_eq_some_iff.mp htype
  exact ⟨name, rfl, hname⟩

/-- **Two types never share a TypeScript name.** After any session `names` and `owners` are inverse to each
other and each definition belongs to a key. A composite that is compiled is referred to by its name in the table,
later calls do not change that name, and qualified names without colons in their segments have the same name
exactly if they have the same path. -/
theorem session_names_unique (table : SlotTable) (calls : List Call) :
    let c := (session table calls .empty).2
    (∀ key name, c.names.lookup key = some name ↔ c.owners.lookup name = some key) ∧
    (∀ k l name, c.names.lookup k = some name → c.names.lookup l = some name → k = l) ∧
    (∀ definition ∈ c.definitions, ∃ key, c.owners.lookup definition.name = some key) ∧
    (∀ p fields type c', segments p ≠ [] → c.compile table (.named p fields) = (.ok type, c') →
      ∃ name, type = .reference name ∧ c'.nameOf? p = some name) ∧
    (∀ later p name, c.nameOf? p = some name → (session table later c).2.nameOf? p = some name) ∧
    (∀ p q, ColonFree (segments p) → ColonFree (segments q) →
      ∀ m n, c.nameOf? p = some m → c.nameOf? q = some n → (m = n ↔ segments p = segments q)) := by
  intro c
  have hc : c.Coherent := session_coherent table calls
  refine ⟨fun _ _ => hc.inverse, fun _ _ _ => hc.injective, fun _ => hc.owned, ?_, ?_, ?_⟩
  · intro p fields type c' hpath hrun
    exact compile_named_ok hpath hrun
  · intro later p name hname
    exact (Grows.law.session table later c).lookup_names hname
  · intro p q hp hq m n hm hn
    rw [← keyOf_inj hp]
    constructor
    · rintro rfl
      exact hc.injective hm hn
    · intro hkey
      rw [nameOf?, hkey] at hm
      exact Option.some.inj (hm.symm.trans hn)

/-- Two users of different modules are two types, and either separator names one type. -/
theorem session_names_unique_users :
    let calls := ["a::models::User", "b::models::User", "pkg.T", "pkg::T"].map fun qualified =>
      Call.compile (.named qualified (.listed []))
    let c := (session [] calls .empty).2
    (c.nameOf? "a::models::User" = some "models_User" ∧ c.nameOf? "b::models::User" = some "b_models_User" ∧
      c.nameOf? "pkg.T" = some "pkg_T" ∧ c.nameOf? "pkg::T" = some "pkg_T") ∧
    ("models_User" = "b_models_User" ↔ segments "a::models::User" = segments "b::models::User") ∧
    ("pkg_T" = "pkg_T" ↔ segments "pkg.T" = segments "pkg::T") := by
  intro calls c
  have hnames : c.nameOf? "a::models::User" = some "models_User" ∧
      c.nameOf? "b::models::User" = some "b_models_User" ∧
      c.nameOf? "pkg.T" = some "pkg_T" ∧ c.nameOf? "pkg::T" = some "pkg_T" := by
    decide +kernel
  obtain ⟨ha, hb, hdot, hcolons⟩ := hnames
  have hunique := (session_names_unique [] calls).2.2.2.2.2
  refine ⟨⟨ha, hb, hdot, hcolons⟩, ?_, ?_⟩
  · exact hunique "a::models::User" "b::models::User" (by decide) (by decide) _ _ ha hb
  · exact hunique "pkg.T" "pkg::T" (by decide) (by decide) _ _ hdot hcolons

end TypedRpc.Compiler
