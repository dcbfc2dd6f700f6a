import TypedRpc.Proofs.Compiler.References
import TypedRpc.Proofs.Compiler.Session

/-!
# Where names and definitions come from

Every name in the table was made of the path of a composite that is reached. When the path has more than one
segment, the name has an underscore, whether it is a short name, a longer one, or a numbered one. Every definition was
written for a composite that is reached, also in a session some calls of which fail (`session_accounted`).
-/

namespace TypedRpc.Compiler

open TypedRpc.Text TypedRpc.TypeScript

/-! ## Underscores -/

theorem underscore_mem_join {parts : List String} (h : 2 ≤ parts.length) : '_' ∈ (join "_" parts).toList := by
  match parts, h with
  | _ :: _ :: _, _ => simp [join]

theorem underscore_mem_scopedName {segments : List String} {extra : Nat} {name : String} (h : 2 ≤ segments.length)
    (hname : scopedName? segments extra = some name) : '_' ∈ name.toList := by
  match segments, h with
  | first :: second :: rest, _ =>
    simp only [scopedName?] at hname
    split at hname
    · rename_i hextra
      obtain rfl := Option.some.inj hname
      -- at least two segments are left
      exact underscore_mem_join (by rw [List.length_drop]; omega)
    · cases hname

theorem underscore_mem_freshName (c : Compiler) {segments : List String} (h : 2 ≤ segments.length) :
    '_' ∈ (c.freshName segments).toList := by
  rcases freshName_cases c segments with ⟨extra, hscoped, -⟩ | ⟨-, i, -, hname, -⟩
  · exact underscore_mem_scopedName h hscoped
  · rw [hname]
    simp [numberedName]

/-! ## Paths of names -/

/-- Each name in the table was made of the path of a composite that is reached. -/
def MadeFrom (table : SlotTable) (roots : List Descriptor) (c : Compiler) : Prop :=
  ∀ key name, c.names.lookup key = some name →
    ∃ (d : Descriptor) (a : Compiler), Descriptor.NamedFrom table roots d ∧ d.key = key ∧
      a.freshName d.path = name

variable {table : SlotTable} {roots ds : List Descriptor} {ts : List TypeExpr} {c c' : Compiler}

theorem MadeFrom.empty : MadeFrom table roots .empty :=
  nofun

theorem MadeFrom.of_assignName (h : MadeFrom table roots c) {d : Descriptor} (hd : Descriptor.NamedFrom table roots d)
    {name : String} (hassign : c.assignName d.path = (name, c')) : MadeFrom table roots c' := by
  rcases assignName_cases c d.path with ⟨name', -, heq⟩ | ⟨name', -, -, hfresh, heq⟩
  · cases hassign.symm.trans heq
    exact h
  · cases hassign.symm.trans heq
    intro key other hlookup
    rcases lookup_give hlookup with hknown | ⟨rfl, rfl⟩
    · exact h key other hknown
    · exact ⟨d, c, hd, rfl, hfresh.symm⟩

theorem Compiles.madeFrom (h : Compiles table c ds ts c') (hds : ∀ d ∈ ds, Descriptor.ReachedFrom table roots d)
    (hnames : MadeFrom table roots c) : MadeFrom table roots c' := by
  induction h with
  | nil => exact hnames
  | keyword _ _ ih => exact ih (List.forall_mem_cons.mp hds).2 hnames
  | sequence _ ih => exact ih (.open hds) hnames
  | optional _ ih => exact ih (.open hds) hnames
  | wrapper _ ih => exact ih (.open hds) hnames
  | inline _ _ _ _ _ ihbody ih =>
    exact ih (List.forall_mem_cons.mp hds).2 (ihbody (hds _ List.mem_cons_self).part hnames)
  | known hpath hassign _ _ ih =>
    exact ih (List.forall_mem_cons.mp hds).2 (hnames.of_assignName ⟨hpath, hds _ List.mem_cons_self⟩ hassign)
  | @expand c c₁ c₂ _ d name types _ _ hpath hassign _ _ _ _ ihbody ih =>
    have hd := hds d List.mem_cons_self
    have hnames₁ : MadeFrom table roots c₁ := hnames.of_assignName ⟨hpath, hd⟩ hassign
    have hbody : MadeFrom table roots c₂ := ihbody hd.part hnames₁
    refine ih (List.forall_mem_cons.mp hds).2 ?_
    rwa [MadeFrom, define_names]

/-- When each composite that is reached has a path of several segments, each definition of a run has an underscore
in its name. -/
theorem Compiles.underscore_mem (h : Compiles table .empty roots ts c)
    (hpaths : ∀ d, Descriptor.NamedFrom table roots d → 2 ≤ d.path.length) :
    ∀ definition ∈ c.definitions, '_' ∈ definition.name.toList := by
  intro definition hd
  have hc := h.coherent .empty
  obtain ⟨key, howner⟩ := hc.owned hd
  obtain ⟨e, a, he, -, hname⟩ := h.madeFrom Descriptor.reachedFrom_self .empty key _ (hc.inverse.mpr howner)
  rw [← hname]
  exact underscore_mem_freshName a (hpaths e he)

/-! ## Definitions -/

/-- Each name was made of the path of a composite that is reached, and each definition was written for one. -/
structure Accounted (table : SlotTable) (roots : List Descriptor) (c : Compiler) : Prop where
  names : MadeFrom table roots c
  definitions : ∀ definition ∈ c.definitions, ∃ d, Descriptor.NamedFrom table roots d ∧
    c.names.lookup d.key = some definition.name ∧
      ∀ naming, c.ExtendedBy naming → renderDefinition table naming definition.name (d.fields table) = some definition

namespace Accounted

variable {table : SlotTable} {roots : List Descriptor} {c c' : Compiler}

theorem empty : Accounted table roots .empty where
  names := .empty
  definitions := nofun

theorem withDepth (h : Accounted table roots c) (depth : Nat) :
    Accounted table roots { c with inlineDepth := depth } :=
  ⟨h.names, h.definitions⟩

theorem enter (h : Accounted table roots c) (key : String) : Accounted table roots (c.enter key) :=
  ⟨h.names, h.definitions⟩

theorem leave (h : Accounted table roots c) (key : String) : Accounted table roots (c.leave key) :=
  ⟨h.names, h.definitions⟩

theorem assignName (h : Accounted table roots c) {d : Descriptor} (hd : Descriptor.NamedFrom table roots d) :
    Accounted table roots (c.assignName d.path).2 := by
  have hgrows := Grows.assignName c d.path
  refine ⟨h.names.of_assignName hd rfl, ?_⟩
  rw [assignName_definitions]
  intro definition hdefinition
  obtain ⟨e, he, hname, hrendered⟩ := h.definitions definition hdefinition
  exact ⟨e, he, hgrows.lookup_names hname, fun naming hext => hrendered naming (hext.of_grows hgrows)⟩

/-- The definition of a composite is accounted for by the answers to its parts. -/
theorem complete (h : Accounted table roots c) {d : Descriptor} {name : String} {types : List TypeExpr}
    {before : Compiler} (hd : Descriptor.NamedFrom table roots d) (hname : c.names.lookup d.key = some name)
    (hbody : Compiles table before (d.parts table) types c) :
    Accounted table roots ((c.leave d.key).define ⟨name, Field.members (d.fields table) types⟩) := by
  have hnames := define_names (c.leave d.key) ⟨name, Field.members (d.fields table) types⟩
  have hextended {naming : Naming}
      (hext : ((c.leave d.key).define ⟨name, Field.members (d.fields table) types⟩).ExtendedBy naming) :
      c.ExtendedBy naming := by
    rwa [ExtendedBy, hnames] at hext
  refine ⟨?_, fun definition hdefinition => ?_⟩
  · rw [MadeFrom, hnames]
    exact h.names
  · rw [hnames]
    rcases mem_define hdefinition with hold | rfl
    · obtain ⟨e, he, hename, hrendered⟩ := h.definitions definition hold
      exact ⟨e, he, hename, fun naming hext => hrendered naming (hextended hext)⟩
    · refine ⟨d, hd, hname, fun naming hext => ?_⟩
      have hrendered := hbody.rendered (hextended hext) (Nat.le_add_left _ _)
      rw [Descriptor.parts_eq_types (Descriptor.isComposite_of_path hd.1)] at hrendered
      rw [renderDefinition, renderMembers_of_forall₂ hrendered]
      rfl

theorem law : RunLaw table roots fun c c' => Grows c c' ∧ (Accounted table roots c → Accounted table roots c') where
  refl c := ⟨.refl c, id⟩
  trans h h' := ⟨h.1.trans h'.1, h'.2 ∘ h.2⟩
  assign hd c := ⟨.assignName c _, fun hc => hc.assignName hd⟩
  inline h := ⟨h.1.inline, fun hc => (h.2 (hc.withDepth _)).withDepth _⟩
  abandon h := ⟨h.1.leave, fun hc => (h.2 (hc.enter _)).leave _⟩
  complete hd hname hbody h :=
    ⟨h.1.complete _, fun hc => (h.2 (hc.enter _)).complete hd (h.1.leave.lookup_names hname) hbody⟩

end Accounted

/-- After a session, all names and definitions are accounted for by the descriptors of its calls. -/
theorem session_accounted (table : SlotTable) (calls : List Call) :
    Accounted table (calls.map Call.type) (session table calls .empty).2 := by
  have hcalls : ∀ call ∈ calls, Descriptor.ReachedFrom table (calls.map Call.type) call.type :=
    fun call hcall => Descriptor.reachedFrom_self _ (List.mem_map_of_mem hcall)
  exact (Accounted.law.session hcalls .empty).2 .empty

end TypedRpc.Compiler
