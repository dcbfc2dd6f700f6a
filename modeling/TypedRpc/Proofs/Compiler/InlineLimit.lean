import TypedRpc.Proofs.Compiler.Completeness
import TypedRpc.Proofs.Compiler.Failing
import TypedRpc.Proofs.Compiler.Nesting

/-!
# The limit for what is written out

Where no composite is defined by name, compiling a descriptor writes it out to the end, and the only way to fail is a
descent with more composites on it than the limit. `Spells` is that writing out, without a state and without a limit.
Main statement: `compile_nameless`.
-/

namespace TypedRpc

open TypedRpc.TypeScript

namespace Descriptor

/-- Nothing that the descriptor reaches is defined by name. -/
def Nameless (table : SlotTable) (d : Descriptor) : Prop :=
  ∀ e, ReachedFrom table [d] e → e.path = []

variable {table : SlotTable} {d : Descriptor}

theorem Nameless.path_eq_nil (h : Nameless table d) : d.path = [] :=
  h d (reachedFrom_self d List.mem_cons_self)

theorem Nameless.part (h : Nameless table d) : ∀ part ∈ d.parts table, Nameless table part := by
  intro part hpart e he
  have hself : ReachedFrom table [d] d := reachedFrom_self d List.mem_cons_self
  exact h e (he.of_reached (List.forall_mem_singleton.mpr (hself.part part hpart)))

/-- The parts of a descriptor in its place. -/
theorem Nameless.open {ds : List Descriptor} (h : ∀ e ∈ d :: ds, Nameless table e) :
    ∀ e ∈ d.parts table ++ ds, Nameless table e := by
  obtain ⟨hd, hds⟩ := List.forall_mem_cons.mp h
  exact List.forall_mem_append.mpr ⟨hd.part, hds⟩

/-- Where nothing has a key, each descent is a trail. -/
theorem Trail.of_descent {met : List String} {ds : List Descriptor} (h : Descent table ds) (hne : ds ≠ [])
    (hpaths : ∀ e ∈ ds, e.path = []) : Trail table met ds := by
  induction h with
  | nil => exact absurd rfl hne
  | singleton e => exact .last fun hpath => absurd (hpaths e List.mem_cons_self) hpath
  | cons_cons hpart _ ih =>
    obtain ⟨hpath, hpaths⟩ := List.forall_mem_cons.mp hpaths
    exact .pass hpath hpart (ih (List.cons_ne_nil _ _) hpaths)

theorem Nameless.writtenOut {rest : List Descriptor} (h : Nameless table d) (hdescent : Descent table (d :: rest)) :
    WrittenOut table (d :: rest) := by
  have hpaths : ∀ e ∈ d :: rest, e.path = [] := fun e he => h e (hdescent.reachedFrom e he)
  exact ⟨.of_descent hdescent (List.cons_ne_nil _ _) hpaths, hpaths⟩

end Descriptor

namespace Compiler

open Descriptor

/-! ## Writing out -/

mutual

/-- The type expression that a descriptor is written out as, to the end and however deep that is. Composites that are
defined by name are not written out. -/
inductive Spells (table : SlotTable) : Descriptor → TypeExpr → Prop where
  | keyword {d : Descriptor} {word : Keyword} (hword : d.keyword? = some word) : Spells table d (.keyword word)
  | sequence {element : Descriptor} {t : TypeExpr} (helement : Spells table element t) :
      Spells table (.sequence element) (.nullableArray t)
  | optional {inner : Descriptor} {t : TypeExpr} (hinner : Spells table inner t) : Spells table (.optional inner) t
  | wrapper {inner : Descriptor} {t : TypeExpr} (hinner : Spells table inner t) : Spells table (.wrapper inner) t
  | object {d : Descriptor} {members : List Member} (hcomposite : d.isComposite = true) (hpath : d.path = [])
      (hfields : SpellsFields table (d.fields table) members) : Spells table d (.object members)

/-- The members that fields are written out as, one for each. -/
inductive SpellsFields (table : SlotTable) : List Field → List Member → Prop where
  | nil : SpellsFields table [] []
  | cons {field : Field} {rest : List Field} {t : TypeExpr} {members : List Member}
      (htype : Spells table field.type t) (hrest : SpellsFields table rest members) :
      SpellsFields table (field :: rest) (field.member t :: members)

end

variable {table : SlotTable} {c c' : Compiler} {d : Descriptor} {ds : List Descriptor} {ts : List TypeExpr}

mutual

/-- A descriptor is written out in one way. -/
theorem Spells.unique {d : Descriptor} {t u : TypeExpr} : Spells table d t → Spells table d u → u = t
  | .keyword hword, h => by
    cases h with
    | keyword hword' => rw [Option.some.inj (hword'.symm.trans hword)]
    | object hcomposite => cases (isComposite_of_keyword hword).symm.trans hcomposite
    | _ => cases hword
  | .sequence helement, .sequence helement' => congrArg _ (helement.unique helement')
  | .optional hinner, .optional hinner' => hinner.unique hinner'
  | .wrapper hinner, .wrapper hinner' => hinner.unique hinner'
  | .object hcomposite _ hfields, h => by
    cases h with
    | keyword hword => cases (isComposite_of_keyword hword).symm.trans hcomposite
    | object _ _ hfields' => exact congrArg _ (hfields.unique hfields')
    | _ => cases hcomposite

theorem SpellsFields.unique {fields : List Field} {members members' : List Member} :
    SpellsFields table fields members → SpellsFields table fields members' → members' = members
  | .nil, .nil => rfl
  | .cons htype hrest, .cons htype' hrest' => by
    rw [htype.unique htype', hrest.unique hrest']

end

theorem spellsFields_of_forall₂ {fields : List Field} {types : List TypeExpr}
    (h : List.Forall₂ (Spells table) (fields.map Field.type) types) :
    SpellsFields table fields (Field.members fields types) := by
  induction fields generalizing types with
  | nil =>
    cases h
    exact .nil
  | cons field rest ih =>
    obtain ⟨_, _⟩ | ⟨htype, hrest⟩ := h
    exact .cons htype (ih hrest)

/-- What a compiler answers is written out to the end. -/
theorem Compiles.spells (h : Compiles table c ds ts c') (hnameless : ∀ d ∈ ds, Nameless table d) :
    List.Forall₂ (Spells table) ds ts := by
  induction h with
  | nil => exact .nil
  | keyword hword _ ih => exact .cons (.keyword hword) (ih (List.forall_mem_cons.mp hnameless).2)
  | sequence _ ih =>
    obtain ⟨_, _⟩ | ⟨helement, hrest⟩ := ih (.open hnameless)
    exact .cons (.sequence helement) hrest
  | optional _ ih =>
    obtain ⟨_, _⟩ | ⟨hinner, hrest⟩ := ih (.open hnameless)
    exact .cons (.optional hinner) hrest
  | wrapper _ ih =>
    obtain ⟨_, _⟩ | ⟨hinner, hrest⟩ := ih (.open hnameless)
    exact .cons (.wrapper hinner) hrest
  | inline hcomposite hpath _ _ _ ihbody ih =>
    obtain ⟨hd, hds⟩ := List.forall_mem_cons.mp hnameless
    have hparts := ihbody hd.part
    rw [parts_eq_types hcomposite] at hparts
    exact .cons (.object hcomposite hpath (spellsFields_of_forall₂ hparts)) (ih hds)
  | known hpath => exact absurd (hnameless _ List.mem_cons_self).path_eq_nil hpath
  | expand hpath => exact absurd (hnameless _ List.mem_cons_self).path_eq_nil hpath

/-! ## The limit -/

section

variable {t : TypeExpr} {trail : List Descriptor}

/-- Where nothing is defined by name, a run leaves the compiler as it was. -/
theorem runLaw_of_nameless (hnameless : Nameless table d) : RunLaw table [d] fun c c' => c' = c where
  refl _ := rfl
  trans h h' := h'.trans h
  assign hd := absurd (hnameless _ hd.2) hd.1
  inline := by
    rintro c _ rfl
    rfl
  abandon := by
    rintro c _ key rfl
    simp [enter, leave]
  complete hd := absurd (hnameless _ hd.2) hd.1

theorem compile_nameless_state (hnameless : Nameless table d) (c : Compiler) : (c.compile table d).2 = c :=
  (runLaw_of_nameless hnameless).compile (reachedFrom_self d List.mem_cons_self) c

/-- A run that succeeds has gone down every descent. -/
theorem Compiles.nesting_le (h : Compiles table c [d] [t] c') (hnameless : Nameless table d)
    (hdepth : c.inlineDepth = 0) : ∀ rest, Descent table (d :: rest) → nesting (d :: rest) ≤ inlineLimit := by
  intro rest hdescent
  have hnested := h.nestedWithin (hdepth ▸ Nat.zero_le _) d List.mem_cons_self
  rw [hdepth] at hnested
  exact hnested rest (hnameless.writtenOut hdescent)

/-- A run that fails has gone down a descent that is too deep. -/
theorem Stops.exists_descent (h : Stops table c [d] trail c') (hdepth : c.inlineDepth = 0) :
    ∃ rest, Descent table (d :: rest) ∧ inlineLimit < nesting (d :: rest) := by
  obtain ⟨first, rest, rfl, hfirst, htrail⟩ := h.exists_trail
  obtain rfl := List.mem_singleton.mp hfirst
  have hnesting := h.nesting_lt
  rw [hdepth, Nat.zero_add] at hnesting
  exact ⟨rest, htrail.descent, hnesting⟩

/-- From what reaches a composite inside itself there are descents that are too deep. -/
theorem exists_deep_descent {e : Descriptor} (hreached : ReachedFrom table [d] e) (hcomposite : e.isComposite = true)
    (hpath : e.path = []) (hcycle : ReachedFrom table (e.parts table) e) :
    ∃ rest, Descent table (d :: rest) ∧ inlineLimit < nesting (d :: rest) := by
  obtain ⟨root, hroot, hreaches⟩ := hreached
  obtain rfl := List.mem_singleton.mp hroot
  exact exists_descent_of_reaches hreaches (exists_descent_of_cycle hcomposite hpath hcycle (inlineLimit + 1))

/-- **Writing out goes exactly as deep as the limit.** Suppose that nothing is defined by name in what a descriptor
reaches, and that it is compiled outside of all that is written out. Then this succeeds if and only if no descent from
it has more than 32 composites on it. The answer is the descriptor written out to the end. The only failure is for
what is nested too deep, and whatever reaches a composite inside itself fails. The compiler stays as it was. -/
theorem compile_nameless (hnameless : Nameless table d) (hdepth : c.inlineDepth = 0) :
    ((∃ t c', c.compile table d = (.ok t, c')) ↔ ∀ rest, Descent table (d :: rest) → nesting (d :: rest) ≤ 32) ∧
    (∀ t c', c.compile table d = (.ok t, c') → c' = c ∧ ∀ u, Spells table d u ↔ u = t) ∧
    (∀ e c', c.compile table d = (.error e, c') → c' = c ∧ e = .nestedTooDeep) ∧
    ∀ e, ReachedFrom table [d] e → e.isComposite = true → ReachedFrom table (e.parts table) e →
      c.compile table d = (.error .nestedTooDeep, c) := by
  have hstate := compile_nameless_state hnameless c
  generalize hrun : c.compile table d = outcome at hstate ⊢
  obtain ⟨e | t, c'⟩ := outcome
  · obtain rfl : c' = c := hstate
    obtain ⟨rfl, trail, hstops⟩ := compile_stops hrun
    obtain ⟨rest, hdescent, hdeep⟩ := hstops.exists_descent hdepth
    refine ⟨⟨nofun, fun hshallow => ?_⟩, nofun, ?_, fun _ _ _ _ => rfl⟩
    · exact absurd (hshallow rest hdescent) (Nat.not_le_of_lt hdeep)
    · rintro _ _ ⟨⟩
      exact ⟨rfl, rfl⟩
  · obtain rfl : c' = c := hstate
    have hcompiles := compile_ok hrun
    have hshallow := hcompiles.nesting_le hnameless hdepth
    have hspells : Spells table d t :=
      (List.forall₂_cons.mp (hcompiles.spells (List.forall_mem_singleton.mpr hnameless))).1
    refine ⟨⟨fun _ => hshallow, fun _ => ⟨t, c', rfl⟩⟩, ?_, nofun, ?_⟩
    · rintro _ _ ⟨⟩
      exact ⟨rfl, fun u => ⟨hspells.unique, fun heq => heq ▸ hspells⟩⟩
    · intro e hreached hcomposite hcycle
      obtain ⟨rest, hdescent, hdeep⟩ := exists_deep_descent hreached hcomposite (hnameless e hreached) hcycle
      exact absurd (hshallow rest hdescent) (Nat.not_le_of_lt hdeep)

end

/-- A string inside so many composites whose name has no segments. -/
def stacked : Nat → Descriptor
  | 0 => .string
  | depth + 1 => .named "::" (.listed [.plain "f" (stacked depth)])

theorem nameless_stacked (depth : Nat) : Nameless [] (stacked depth) := by
  have hpath : segments "::" = [] := by
    decide
  intro e he
  have hstacked : ∃ below, e = stacked below := by
    refine he.mem_of_closed (S := fun e => ∃ below, e = stacked below) ?_ ?_
    · exact List.forall_mem_singleton.mpr ⟨depth, rfl⟩
    · rintro _ ⟨_ | below, rfl⟩ part hpart
      · exact absurd hpart List.not_mem_nil
      · exact ⟨below, List.mem_singleton.mp hpart⟩
  obtain ⟨_ | below, rfl⟩ := hstacked
  · rfl
  · exact hpath

/-- 32 composites inside each other are written out, and 33 are not. A composite inside itself never is, whatever else
is under construction. -/
theorem compile_nameless_stacked :
    let table : SlotTable := [("chain", [.leaveable "next" (.inline (.deferred "chain"))])]
    let chain : Descriptor := .inline (.deferred "chain")
    let c : Compiler := { Compiler.empty with processing := ["x::Other"] }
    (Nameless [] (stacked 32) ∧ c.inlineDepth = 0 ∧
      ∃ t, c.compile [] (stacked 32) = (.ok t, c) ∧ ∀ u, Spells [] (stacked 32) u ↔ u = t) ∧
    (Nameless [] (stacked 33) ∧ c.compile [] (stacked 33) = (.error .nestedTooDeep, c)) ∧
    Nameless table chain ∧ c.compile table chain = (.error .nestedTooDeep, c) := by
  intro table chain c
  have hchain (e : Descriptor) (he : ReachedFrom table [chain] e) : e = chain := by
    refine he.mem_of_closed (S := (· = chain)) (List.forall_mem_singleton.mpr rfl) ?_
    rintro _ rfl part hpart
    exact List.mem_singleton.mp hpart
  have hnameless : Nameless table chain := fun e he => hchain e he ▸ rfl
  refine ⟨⟨nameless_stacked 32, rfl, ?_⟩, ⟨nameless_stacked 33, ?_⟩, hnameless, ?_⟩
  · have hshown : (c.compile [] (stacked 32)).1.toOption.map (fun _ => ()) = some () := by
      decide +kernel
    obtain ⟨t, hrun, -⟩ := exists_compile hshown
    generalize (c.compile [] (stacked 32)).2 = c' at hrun
    obtain ⟨rfl, hspells⟩ := (compile_nameless (nameless_stacked 32) rfl).2.1 t c' hrun
    exact ⟨t, hrun, hspells⟩
  · have hfails : (c.compile [] (stacked 33)).1.toOption.isNone = true := by
      decide +kernel
    cases hrun : c.compile [] (stacked 33) with
    | mk outcome c' =>
      cases outcome with
      | ok t => simp [hrun, Except.toOption] at hfails
      | error e =>
        obtain ⟨rfl, rfl⟩ := (compile_nameless (nameless_stacked 33) rfl).2.2.1 e c' hrun
        rfl
  · have hself : ReachedFrom table [chain] chain := reachedFrom_self chain List.mem_cons_self
    have hcycle : ReachedFrom table (chain.parts table) chain := reachedFrom_self chain (List.mem_singleton.mpr rfl)
    exact (compile_nameless hnameless rfl).2.2.2 chain hself rfl hcycle

end Compiler

end TypedRpc
