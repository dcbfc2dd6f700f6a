import TypedRpc.Proofs.Compiler.Completeness
import TypedRpc.Proofs.Compiler.References
import TypedRpc.Proofs.Compiler.Session

/-!
# Compiling again

Once a compilation outside of all composites has succeeded, each name that it refers to has its definition, also
where the composite was under construction when it was met. No later call takes a name or a definition back, and what
is written out lies as deep as before. So the answer stays: compiling again comes to references only, and they are
all defined. Main statement: `compile_stable`.
-/

namespace TypedRpc.Compiler

open TypedRpc.TypeScript

variable {table : SlotTable} {c c' later : Compiler} {d : Descriptor} {ds : List Descriptor} {t : TypeExpr}
  {ts : List TypeExpr}

/-- A composite whose name is defined is referred to, and nothing changes. -/
theorem Compiles.reference {name : String} (hpath : d.path ≠ []) (hname : c.names.lookup d.key = some name)
    (hdefined : name ∈ c.definitions.map (·.name)) (rest : Compiles table c ds ts c') :
    Compiles table c (d :: ds) (.reference name :: ts) c' :=
  .known hpath (assignName_known hname) (.inr hdefined) rest

/-- What grows outside of a composite that is written out grows inside of it. -/
theorem Grows.deeper (h : Grows { c with inlineDepth := c.inlineDepth - 1 } later) (hdepth : 0 < c.inlineDepth) :
    Grows c { later with inlineDepth := later.inlineDepth + 1 } where
  names := h.names
  owners := h.owners
  definitions := h.definitions
  processing := h.processing
  inlineDepth := by
    have houtside := h.inlineDepth
    dsimp only at houtside ⊢
    omega

/-- What has been compiled outside of all named composites is compiled again to the same types, by every compiler that
has grown out of the one at the end, and that one does not change. -/
theorem Compiles.again (h : Compiles table c ds ts c') (hprocessing : c.processing = []) (hlater : Grows c' later) :
    Compiles table later ds ts later := by
  induction h generalizing later with
  | nil => exact .nil
  | keyword hword _ ih => exact .keyword hword (ih hprocessing hlater)
  | sequence _ ih => exact .sequence (ih hprocessing hlater)
  | optional _ ih => exact .optional (ih hprocessing hlater)
  | wrapper _ ih => exact .wrapper (ih hprocessing hlater)
  | @inline c c₁ _ d _ _ _ hcomposite hpath hdepth body rest ihbody ih =>
    have hgrown := rest.grows.trans hlater
    have hsame : later.inlineDepth = c.inlineDepth := (body.grows.inline.trans hgrown).inlineDepth
    have hinside : c₁.inlineDepth = c.inlineDepth + 1 := body.grows.inlineDepth
    -- the parts are compiled one level deeper, as they were the first time
    have hparts := ihbody hprocessing (hgrown.deeper (by omega))
    have hrest := ih (body.grows.processing.trans hprocessing) hlater
    exact .inline hcomposite hpath (hsame ▸ hdepth) hparts hrest
  | @known c c₁ _ d name _ _ hpath hassign hknown rest ih =>
    have hgrows := Grows.of_assignName hassign
    have hgrown := rest.grows.trans hlater
    have hprocessing₁ : c₁.processing = [] := hgrows.processing.trans hprocessing
    -- nothing is under construction, so the name has its definition
    have hdefined : name ∈ c₁.definitions.map (·.name) := by
      refine hknown.resolve_left ?_
      rw [hprocessing₁]
      exact List.not_mem_nil
    exact .reference hpath (hgrown.lookup_names (lookup_of_assignName hassign))
      ((hgrown.definitions.map _).subset hdefined) (ih hprocessing₁ hlater)
  | @expand c c₁ c₂ _ d name types _ _ hpath hassign _ _ body rest _ ih =>
    have hcomplete := body.grows.complete ⟨name, Field.members (d.fields table) types⟩
    have hgrown := rest.grows.trans hlater
    have hprocessing₁ : c₁.processing = [] := (Grows.of_assignName hassign).processing.trans hprocessing
    have hname := (hcomplete.trans hgrown).lookup_names (lookup_of_assignName hassign)
    exact .reference hpath hname ((hgrown.definitions.map _).subset (name_mem_define _ _))
      (ih (hcomplete.processing.trans hprocessing₁) hlater)

/-- **An answer stays.** Let a compiler on which no composite is under construction, whatever calls have succeeded or
failed before, answer a descriptor with a type. After any further calls, which may fail too, it answers the descriptor
with the same type, and that leaves it as it is: no name, no owner and no definition is added or changed. -/
theorem compile_stable (hprocessing : c.processing = []) (hrun : c.compile table d = (.ok t, c'))
    (calls : List Call) :
    let later := (session table calls c').2
    later.compile table d = (.ok t, later) := by
  intro later
  have hgrown : Grows c' later := Grows.law.session table calls c'
  exact compile_iff.mpr ((compile_ok hrun).again hprocessing hgrown)

/-- A pair of a node that contains itself and a list of such nodes, met by a compiler after a call that failed. The
node is defined while the pair is compiled, and the answer is the same after further calls, one of which fails. -/
theorem compile_stable_nodes :
    let table : SlotTable :=
      [("node", [.leaveable "next" (.named "x::Node" (.deferred "node"))]),
       ("chain", [.leaveable "next" (.inline (.deferred "chain"))])]
    let node : Descriptor := .named "x::Node" (.deferred "node")
    let pair : Descriptor := .inline (.listed [.plain "first" node, .plain "others" (.sequence node)])
    let chain : Descriptor := .inline (.deferred "chain")
    let stuck : Descriptor := .named "x::Stuck" (.listed [.plain "chain" chain, .plain "node" node])
    let c := (session table [.compile stuck] .empty).2
    c.processing = [] ∧ c.definitions.map (·.name) = [] ∧
    ∃ t c', c.compile table pair = (.ok t, c') ∧ t.print = "\x7b first: x_Node; others: (x_Node[] | null) \x7d" ∧
      let later := (session table [.define pair, .compile stuck, .define node] c').2
      later.compile table pair = (.ok t, later) := by
  intro table node pair chain stuck c
  have hprocessing : c.processing = [] := by
    decide +kernel
  have hnames : c.definitions.map (·.name) = [] := by
    decide +kernel
  have hshown : (c.compile table pair).1.toOption.map TypeExpr.print =
      some "\x7b first: x_Node; others: (x_Node[] | null) \x7d" := by
    decide +kernel
  obtain ⟨t, hrun, hprint⟩ := exists_compile hshown
  exact ⟨hprocessing, hnames, t, _, hrun, hprint, compile_stable hprocessing hrun _⟩

end TypedRpc.Compiler
