import TypedRpc.Proofs.Compiler.References
import TypedRpc.Proofs.Compiler.Session

/-!
# The order of definitions

A definition is added once the fields of its composite have been compiled. What they refer to has been added before,
or it is still under construction; then the composite was met inside itself, and its definition, when it is added,
leads back to all those that have been added since. So a definition refers to one that comes later, or to itself, only
on a cycle.
-/

namespace TypedRpc.Compiler

open TypedRpc.TypeScript TypedRpc.Descriptor

/-- The name is that of a composite that contains its own key. -/
def Recursive (table : SlotTable) (roots : List Descriptor) (c : Compiler) (name : String) : Prop :=
  ∃ d, NamedFrom table roots d ∧ d.ContainsOwnKey table ∧ c.names.lookup d.key = some name

/-- Where a definition refers to a later one or to itself, that belongs to a composite that contains itself, and a
later one leads back. What is referred to and not defined is under construction. -/
structure InOrder (table : SlotTable) (roots : List Descriptor) (c : Compiler) : Prop where
  coherent : c.Coherent
  closed : c.ClosedUpTo (· ∈ c.processing)
  later : c.definitions.Pairwise fun a b => b.name ∈ a.references →
    Relation.TransGen (Refers c.definitions) b.name a.name ∧ Recursive table roots c b.name
  self : ∀ a ∈ c.definitions, a.name ∈ a.references → Recursive table roots c a.name

section

variable {table : SlotTable} {roots : List Descriptor} {c c₁ c₂ c' : Compiler}

theorem Recursive.of_grows {name : String} (hgrows : Grows c c') (h : Recursive table roots c name) :
    Recursive table roots c' name := by
  obtain ⟨d, hd, hown, hname⟩ := h
  exact ⟨d, hd, hown, hgrows.lookup_names hname⟩

namespace InOrder

theorem empty : InOrder table roots .empty where
  coherent := .empty
  closed := nofun
  later := .nil
  self := nofun

theorem withDepth (h : InOrder table roots c) (depth : Nat) : InOrder table roots { c with inlineDepth := depth } :=
  ⟨h.coherent.withDepth depth, h.closed, h.later, h.self⟩

theorem enter (h : InOrder table roots c) (key : String) : InOrder table roots (c.enter key) :=
  ⟨h.coherent.enter key, h.closed.mono fun _ => List.mem_cons_of_mem key, h.later, h.self⟩

theorem of_assignName {segments : List String} {name : String} (h : InOrder table roots c)
    (hassign : c.assignName segments = (name, c')) : InOrder table roots c' := by
  have hgrows := Grows.of_assignName hassign
  have hsame := definitions_of_assignName hassign
  refine ⟨h.coherent.of_assignName hassign, ?_, ?_, ?_⟩
  · rw [hgrows.processing]
    exact h.closed.of_grows hgrows hsame
  · rw [hsame]
    exact h.later.imp fun hlater hname => (hlater hname).imp_right (.of_grows hgrows)
  · rw [hsame]
    exact fun a ha hname => (h.self a ha hname).of_grows hgrows

/-- A definition is added that leads back to those that refer to it. -/
theorem define {definition : Definition} {own : String} (h : InOrder table roots c)
    (hown : c.names.lookup own = some definition.name) (hnew : definition.name ∉ c.definitions.map (·.name))
    (hclosed : ((c.leave own).define definition).ClosedUpTo (· ∈ (c.leave own).processing))
    (hback : ∀ a ∈ c.definitions, definition.name ∈ a.references →
      ∃ root ∈ definition.references, Relation.ReflTransGen (Refers c.definitions) root a.name)
    (hrecursive : (definition.name ∈ definition.references ∨ ∃ a ∈ c.definitions, definition.name ∈ a.references) →
      Recursive table roots c definition.name) :
    InOrder table roots ((c.leave own).define definition) := by
  have hundefined : (c.leave own).definition? definition.name = none := definition?_eq_none.mpr hnew
  rw [define_of_none hundefined] at hclosed ⊢
  have hmore : c.definitions ⊆ c.definitions ++ [definition] := List.subset_append_left ..
  refine ⟨?_, hclosed, ?_, ?_⟩
  · rw [← define_of_none hundefined]
    exact (h.coherent.leave own).define hown
  · refine List.pairwise_append.mpr ⟨?_, List.pairwise_singleton _ _, fun a ha b hb href => ?_⟩
    · refine h.later.imp fun hlater href => (hlater href).imp_left ?_
      exact Relation.TransGen.mono (fun _ _ hrefers => hrefers.mono hmore) _ _
    · obtain rfl := List.mem_singleton.mp hb
      obtain ⟨root, hroot, hreaches⟩ := hback a ha href
      have hrefers : Refers (c.definitions ++ [b]) b.name root :=
        ⟨b, List.mem_append_right _ List.mem_cons_self, rfl, hroot⟩
      exact ⟨.head' hrefers (Refers.reaches_mono hmore hreaches), hrecursive (.inr ⟨a, ha, href⟩)⟩
  · intro a ha href
    rcases List.mem_append.mp ha with ha | ha
    · exact h.self a ha href
    · obtain rfl := List.mem_singleton.mp ha
      exact hrecursive (.inl href)

end InOrder

/-- The fields of a composite are compiled that is not defined and not under construction yet. -/
structure Expands (table : SlotTable) (c₁ : Compiler) (d : Descriptor) (name : String) (types : List TypeExpr)
    (c₂ : Compiler) : Prop where
  named : c₁.names.lookup d.key = some name
  key : d.key ∉ c₁.processing
  undefined : name ∉ c₁.definitions.map (·.name)
  body : Compiles table (c₁.enter d.key) (d.parts table) types c₂

namespace Expands

variable {d : Descriptor} {name : String} {types : List TypeExpr}

theorem lookup_name (h : Expands table c₁ d name types c₂) : c₂.names.lookup d.key = some name :=
  h.body.grows.lookup_names h.named

theorem still_undefined (h : Expands table c₁ d name types c₂) (h₁ : InOrder table roots c₁) :
    name ∉ c₂.definitions.map (·.name) :=
  h.body.undefined (h₁.coherent.enter d.key) List.mem_cons_self h.named h.undefined

/-- What was defined before does not refer to the composite. -/
theorem not_mem_references (h : Expands table c₁ d name types c₂) (h₁ : InOrder table roots c₁) :
    ∀ a ∈ c₁.definitions, name ∉ a.references := by
  intro a ha href
  rcases h₁.closed a ha name href with hdefined | ⟨key, hmem, hlookup⟩
  · exact h.undefined hdefined
  · obtain rfl := h₁.coherent.injective hlookup h.named
    exact h.key hmem

/-- Only a composite that contains itself is referred to before it is defined. -/
theorem containsOwnKey (h : Expands table c₁ d name types c₂) (h₁ : InOrder table roots c₁)
    (href : name ∈ types.flatMap TypeExpr.references ∨ ∃ a ∈ c₂.definitions, name ∈ a.references) :
    d.ContainsOwnKey table := by
  let pending : String → Prop := fun key => key ∈ c₁.processing ∨ key = d.key ∧ d.ContainsOwnKey table
  have hpending : ∀ key ∈ (c₁.enter d.key).processing, KeyFrom table (d.parts table) key → pending key := by
    intro key hmem hmet
    rcases List.mem_cons.mp hmem with rfl | hmem
    · exact .inr ⟨rfl, hmet⟩
    · exact .inl hmem
  obtain ⟨hanswers, hclosed⟩ := h.body.closedUpTo reachedFrom_self hpending (h₁.closed.mono fun _ => .inl)
  have hcovers : c₂.Covers pending name := by
    rcases href with hanswer | ⟨a, ha, href⟩
    · exact hanswers name hanswer
    · exact hclosed a ha name href
  rcases hcovers with hdefined | ⟨key, hkey, hlookup⟩
  · exact absurd hdefined (h.still_undefined h₁)
  · have hc₂ : c₂.Coherent := h.body.coherent (h₁.coherent.enter d.key)
    obtain rfl := hc₂.injective hlookup h.lookup_name
    rcases hkey with hmem | ⟨-, hown⟩
    · exact absurd hmem h.key
    · exact hown

/-- What refers to the composite has been defined since, and is reached from what its fields answer. -/
theorem exists_answer (h : Expands table c₁ d name types c₂) (h₁ : InOrder table roots c₁) {a : Definition}
    (ha : a ∈ c₂.definitions) (href : name ∈ a.references) :
    ∃ root ∈ types.flatMap TypeExpr.references, Relation.ReflTransGen (Refers c₂.definitions) root a.name := by
  rcases h.body.definitions_reached (h₁.coherent.enter d.key) a ha with hold | hreached
  · exact absurd href (h.not_mem_references h₁ a hold)
  · exact hreached

/-- The key of the composite need not be under construction any more. -/
theorem closedUpTo_define (h : Expands table c₁ d name types c₂) (h₁ : InOrder table roots c₁)
    (hd : d.isComposite = true) :
    ((c₂.leave d.key).define ⟨name, Field.members (d.fields table) types⟩).ClosedUpTo (· ∈ c₁.processing) := by
  have hsplit (key : String) (hkey : key ∈ (c₁.enter d.key).processing) : key ∈ c₁.processing ∨ key = d.key :=
    (List.mem_cons.mp hkey).symm
  obtain ⟨hanswers, hclosed⟩ := h.body.closedUpTo reachedFrom_self (fun key hkey _ => hsplit key hkey)
    ((h₁.enter d.key).closed.mono hsplit)
  refine hclosed.define ?_ h.lookup_name
  rw [Definition.references, h.body.references_members hd]
  exact hanswers

theorem inOrder (h : Expands table c₁ d name types c₂) (h₁ : InOrder table roots c₁) (h₂ : InOrder table roots c₂)
    (hd : NamedFrom table roots d) :
    InOrder table roots ((c₂.leave d.key).define ⟨name, Field.members (d.fields table) types⟩) := by
  have hcomposite := isComposite_of_path hd.1
  have hreferences := h.body.references_members hcomposite
  refine h₂.define h.lookup_name (h.still_undefined h₁) ?_ (fun a ha href => ?_) fun href => ?_
  · rw [h.body.grows.leave.processing]
    exact h.closedUpTo_define h₁ hcomposite
  · rw [Definition.references, hreferences]
    exact h.exists_answer h₁ ha href
  · rw [Definition.references, hreferences] at href
    exact ⟨d, hd, h.containsOwnKey h₁ href, h.lookup_name⟩

end Expands

theorem Compiles.inOrder {ds : List Descriptor} {ts : List TypeExpr} (h : Compiles table c ds ts c')
    (hds : ∀ d ∈ ds, ReachedFrom table roots d) (horder : InOrder table roots c) : InOrder table roots c' := by
  induction h with
  | nil => exact horder
  | keyword _ _ ih => exact ih (List.forall_mem_cons.mp hds).2 horder
  | sequence _ ih => exact ih (.open hds) horder
  | optional _ ih => exact ih (.open hds) horder
  | wrapper _ ih => exact ih (.open hds) horder
  | inline _ _ _ _ _ ihbody ih =>
    obtain ⟨hd, hrest⟩ := List.forall_mem_cons.mp hds
    exact ih hrest ((ihbody hd.part (horder.withDepth _)).withDepth _)
  | known _ hassign _ _ ih => exact ih (List.forall_mem_cons.mp hds).2 (horder.of_assignName hassign)
  | @expand c c₁ c₂ c' d name types _ _ hpath hassign hkey hname body _ ihbody ih =>
    obtain ⟨hd, hrest⟩ := List.forall_mem_cons.mp hds
    have hexpands : Expands table c₁ d name types c₂ := ⟨lookup_of_assignName hassign, hkey, hname, body⟩
    have h₁ := horder.of_assignName hassign
    have h₂ := ihbody hd.part (h₁.enter d.key)
    exact ih hrest (hexpands.inOrder h₁ h₂ ⟨hpath, hd⟩)

/-- What a definition refers to comes before it, or they are on a cycle. -/
theorem InOrder.mem_before_or_cycle (h : InOrder table roots c) {before after : List Definition} {a b : Definition}
    (hlist : c.definitions = before ++ a :: after) (hb : b ∈ c.definitions) (href : b.name ∈ a.references) :
    b ∈ before ∨
      (Relation.TransGen (Refers c.definitions) a.name a.name ∧ Recursive table roots c b.name) := by
  have ha : a ∈ c.definitions := by
    rw [hlist]
    exact List.mem_append_right _ List.mem_cons_self
  have hrefers : Refers c.definitions a.name b.name := ⟨a, ha, rfl, href⟩
  rw [hlist] at hb
  rcases List.mem_append.mp hb with hbefore | hb
  · exact .inl hbefore
  rcases List.mem_cons.mp hb with rfl | hafter
  · exact .inr ⟨.single hrefers, h.self b ha href⟩
  · have hlater := h.later
    rw [hlist] at hlater
    have hpair := (List.pairwise_cons.mp (List.pairwise_append.mp hlater).2.1).1 b hafter
    rw [← hlist] at hpair
    obtain ⟨hback, hrecursive⟩ := hpair href
    exact .inr ⟨.head hrefers hback, hrecursive⟩

/-- **Definitions come in the order in which they depend on each other.** After compilations all of which succeed, a
definition refers to a later one only if that leads back to it. So where definitions do not lead back to themselves,
as is so where no composite contains itself, each one refers to earlier ones only. -/
theorem session_definitions_ordered {ds : List Descriptor} {ts : List TypeExpr}
    (h : session table (ds.map .compile) .empty = (ts.map .token, c)) :
    c.definitions.Pairwise (fun a b => b.name ∈ a.references →
      Relation.TransGen (Refers c.definitions) b.name a.name) ∧
    ((∀ name, ¬ Relation.TransGen (Refers c.definitions) name name) ∨ Acyclic table ds →
      ∀ before a after, c.definitions = before ++ a :: after → ∀ name ∈ a.references, name ∈ before.map (·.name)) := by
  have hrun := session_ok h
  have horder : InOrder table ds c := hrun.inOrder reachedFrom_self .empty
  refine ⟨horder.later.imp fun hlater href => (hlater href).1, ?_⟩
  intro hacyclic before a after hlist name href
  have ha : a ∈ c.definitions := by
    rw [hlist]
    exact List.mem_append_right _ List.mem_cons_self
  obtain ⟨b, hb, rfl⟩ := List.mem_map.mp (hrun.closed (.inr ⟨a, ha, href⟩))
  rcases horder.mem_before_or_cycle hlist hb href with hbefore | ⟨hcycle, d, hd, hown, -⟩
  · exact List.mem_map_of_mem hbefore
  · rcases hacyclic with hnone | hacyclic
    · exact absurd hcycle (hnone a.name)
    · exact absurd hown (hacyclic d hd)

end

/-- Of two types that contain each other the inner one is defined first, and the other one leads back to it. A type
that only uses another one is defined after that. -/
theorem session_definitions_ordered_left_right :
    let table : SlotTable :=
      [("left", [.plain "right" (.named "x::Right" (.deferred "right"))]),
       ("right", [.plain "left" (.named "x::Left" (.deferred "left"))])]
    let left : Descriptor := .named "x::Left" (.deferred "left")
    let item : Descriptor := .named "x::Item" (.listed [])
    let order : Descriptor := .named "x::Order" (.listed [.plain "item" item])
    (∃ t c, session table ([left].map .compile) .empty = ([t].map .token, c) ∧
      c.definitions.map (fun definition => (definition.name, definition.references)) =
        [("x_Right", ["x_Left"]), ("x_Left", ["x_Right"])] ∧
      Relation.TransGen (Refers c.definitions) "x_Left" "x_Right") ∧
    ∃ t c, session table ([order].map .compile) .empty = ([t].map .token, c) ∧
      c.definitions.map (·.name) = ["x_Item", "x_Order"] ∧
      ∀ before a after, c.definitions = before ++ a :: after → ∀ name ∈ a.references, name ∈ before.map (·.name) := by
  intro table left item order
  have hacyclic : Acyclic table [order] := by
    have hflat : ∀ root ∈ [item], root.parts table = [] := List.forall_mem_singleton.mpr rfl
    rintro a ⟨-, ha⟩ ⟨e, ⟨-, he⟩, hkey⟩
    rcases ha.eq_or_below with rfl | ha
    · obtain rfl := List.mem_singleton.mp (he.mem_of_flat hflat)
      exact absurd hkey (by decide +kernel)
    · obtain rfl := List.mem_singleton.mp (ha.mem_of_flat hflat)
      obtain ⟨root, hroot, -⟩ := he
      exact absurd hroot List.not_mem_nil
  constructor
  · obtain ⟨t, hrun⟩ := session_compile table .empty left (by decide +kernel)
    generalize hc : (Compiler.empty.compile table left).2 = c at hrun
    have hshown : c.definitions.map (fun definition => (definition.name, definition.references)) =
        [("x_Right", ["x_Left"]), ("x_Left", ["x_Right"])] := by
      rw [← hc]
      decide +kernel
    refine ⟨t, c, hrun, hshown, ?_⟩
    obtain ⟨hback, -⟩ := session_definitions_ordered hrun
    obtain ⟨right, rest, hlist, hright, hrest⟩ := List.map_eq_cons_iff.mp hshown
    obtain ⟨last, rest, rfl, hlast, hnil⟩ := List.map_eq_cons_iff.mp hrest
    obtain ⟨hrightName, hrightReferences⟩ := Prod.mk.inj hright
    obtain ⟨hlastName, -⟩ := Prod.mk.inj hlast
    rw [hlist] at hback
    have hpair := (List.pairwise_cons.mp hback).1 last List.mem_cons_self
    rw [← hlist, hlastName, hrightName, hrightReferences] at hpair
    exact hpair (List.mem_singleton.mpr rfl)
  · obtain ⟨t, hrun⟩ := session_compile table .empty order (by decide +kernel)
    generalize hc : (Compiler.empty.compile table order).2 = c at hrun
    have hnames : c.definitions.map (·.name) = ["x_Item", "x_Order"] := by
      rw [← hc]
      decide +kernel
    exact ⟨t, c, hrun, hnames, (session_definitions_ordered hrun).2 (.inr hacyclic)⟩

end TypedRpc.Compiler
