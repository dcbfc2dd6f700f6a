import TypedRpc.Proofs.Compiler.Failing
import TypedRpc.Proofs.Compiler.References
import TypedRpc.Proofs.Compiler.Session

/-!
# References after a failed call

A call that fails leaves the composites on its trail without a definition, but what has been defined on the way stays,
and may refer to one of them that was under construction then. Such a composite contains itself. Where none of those
on the trail does, all references of the definitions are defined afterwards, and so are those of later answers.
-/

namespace TypedRpc.Compiler

open TypedRpc.TypeScript TypedRpc.Descriptor

namespace Stops

variable {table : SlotTable} {c c' : Compiler} {ds trail : List Descriptor}

/-- Definitions refer to no more than before, and to composites on the trail that contain themselves. -/
theorem closedUpTo {pending : String → Prop} (h : Stops table c ds trail c')
    (hprocessing : ∀ key ∈ c.processing, KeyFrom table ds key → pending key)
    (htrail : ∀ a ∈ trail, a.path ≠ [] → a.ContainsOwnKey table → pending a.key) (hclosed : c.ClosedUpTo pending) :
    c'.ClosedUpTo pending := by
  induction h with
  | @later c c₁ c' d t ds trail first _ ih =>
    have hfirst : ∀ key ∈ c.processing, KeyFrom table [d] key → pending key :=
      fun key hkey hmet => hprocessing key hkey (hmet.of_subset (List.cons_subset_cons d (List.nil_subset ds)))
    have hrest : ∀ key ∈ c₁.processing, KeyFrom table ds key → pending key := by
      rw [first.grows.processing]
      exact fun key hkey hmet => hprocessing key hkey (hmet.of_subset (List.subset_cons_self d ds))
    obtain ⟨-, hclosed₁⟩ := first.closedUpTo reachedFrom_self hfirst hclosed
    exact ih hrest htrail hclosed₁
  | limit => exact hclosed
  | layer _ hparts _ ih =>
    refine ih (fun key hkey hmet => ?_) (List.forall_mem_cons.mp htrail).2 hclosed
    rw [← hparts] at hmet
    exact hprocessing key hkey hmet.of_parts
  | inline _ _ _ ih =>
    exact ih (fun key hkey hmet => hprocessing key hkey hmet.of_parts) (List.forall_mem_cons.mp htrail).2 hclosed
  | abandon hpath hassign _ _ _ ih =>
    obtain ⟨hself, htrail⟩ := List.forall_mem_cons.mp htrail
    have hgrows := Grows.of_assignName hassign
    have hclosed₁ := hclosed.of_grows hgrows (definitions_of_assignName hassign)
    refine ih (fun key hkey hmet => ?_) htrail hclosed₁
    -- below the composite its own key is met only if it contains itself
    rcases List.mem_cons.mp hkey with rfl | hkey
    · exact hself hpath hmet
    · exact hprocessing key (hgrows.processing ▸ hkey) hmet.of_parts

/-- What is under construction is not defined by a run that fails. -/
theorem undefined (h : Stops table c ds trail c') (hc : c.Coherent) {key name : String}
    (hkey : key ∈ c.processing) (hname : c.names.lookup key = some name)
    (hundefined : name ∉ c.definitions.map (·.name)) : name ∉ c'.definitions.map (·.name) := by
  induction h with
  | later first _ ih =>
    have hgrows := first.grows
    exact ih (first.coherent hc) (hgrows.processing ▸ hkey) (hgrows.lookup_names hname)
      (first.undefined hc hkey hname hundefined)
  | limit => exact hundefined
  | layer _ _ _ ih => exact ih hc hkey hname hundefined
  | inline _ _ _ ih => exact ih (hc.withDepth _) hkey hname hundefined
  | abandon _ hassign _ _ _ ih =>
    have hgrows := Grows.of_assignName hassign
    rw [← definitions_of_assignName hassign] at hundefined
    exact ih ((hc.of_assignName hassign).enter _) (List.mem_cons_of_mem _ (hgrows.processing ▸ hkey))
      (hgrows.lookup_names hname) hundefined

/-- No composite in which the run fails gets a definition. -/
theorem trail_undefined (h : Stops table c ds trail c') (hc : c.Coherent) :
    ∀ a ∈ trail, a.path ≠ [] → ∃ name, c'.names.lookup a.key = some name ∧ name ∉ c'.definitions.map (·.name) := by
  induction h with
  | later first _ ih => exact ih (first.coherent hc)
  | limit _ hpath _ => exact List.forall_mem_singleton.mpr fun hne => absurd hpath hne
  | layer hcomposite _ _ ih =>
    refine List.forall_mem_cons.mpr ⟨fun hne => ?_, ih hc⟩
    cases (isComposite_of_path hne).symm.trans hcomposite
  | inline _ hpath _ ih => exact List.forall_mem_cons.mpr ⟨fun hne => absurd hpath hne, ih (hc.withDepth _)⟩
  | @abandon c c₁ c' d name _ _ _ hassign _ hname body ih =>
    have hc₁ := (hc.of_assignName hassign).enter d.key
    have hnamed : c₁.names.lookup d.key = some name := lookup_of_assignName hassign
    refine List.forall_mem_cons.mpr ⟨fun _ => ⟨name, body.grows.lookup_names hnamed, ?_⟩, ih hc₁⟩
    exact body.undefined hc₁ List.mem_cons_self hnamed hname

end Stops

/-! ## Calls -/

section

variable {table : SlotTable} {c c' : Compiler} {d : Descriptor}

/-- A compilation succeeds, or it fails on a trail. -/
theorem compile_cases (table : SlotTable) (d : Descriptor) (c : Compiler) :
    (∃ t, Compiles table c [d] [t] (c.compile table d).2) ∨
      (∃ e, (c.compile table d).1 = .error e) ∧ ∃ trail, Stops table c [d] trail (c.compile table d).2 := by
  generalize hrun : c.compile table d = outcome
  obtain ⟨e | t, c'⟩ := outcome
  · exact .inr ⟨⟨e, rfl⟩, (compile_stops hrun).2⟩
  · exact .inl ⟨t, compile_ok hrun⟩

theorem defineType_cases (table : SlotTable) (d : Descriptor) (c : Compiler) :
    (∃ t, Compiles table c [d] [t] (defineType table d c).2) ∨
      (∃ e, (defineType table d c).1 = .error e) ∧ ∃ trail, Stops table c [d] trail (defineType table d c).2 := by
  have hcompile := compile_cases table d c
  fun_induction defineType table d c with
  | case1 inner c ih =>
    rcases ih (compile_cases table inner c) with ⟨t, hcompiles⟩ | ⟨hfailed, trail, hstops⟩
    · exact .inl ⟨t, .optional hcompiles⟩
    · exact .inr ⟨hfailed, _, .layer rfl rfl hstops⟩
  | case2 inner c ih =>
    rcases ih (compile_cases table inner c) with ⟨t, hcompiles⟩ | ⟨hfailed, trail, hstops⟩
    · exact .inl ⟨t, .wrapper hcompiles⟩
    · exact .inr ⟨hfailed, _, .layer rfl rfl hstops⟩
  | case3 d c _ _ e c' hrun => simpa [hrun] using hcompile
  | case4 d c _ _ name c' hrun definition _ => simpa [hrun] using hcompile
  -- nothing failed below these two
  | case5 d c _ _ name c' hrun _ => exact .inl (by simpa [hrun] using hcompile)
  | case6 d c _ _ type c' _ hrun => exact .inl (by simpa [hrun] using hcompile)

theorem Call.run_cases (table : SlotTable) (call : Call) (c : Compiler) :
    (∃ t, Compiles table c [call.type] [t] (call.run table c).2) ∨
      (∃ e, (call.run table c).1 = .failure e) ∧ ∃ trail, Stops table c [call.type] trail (call.run table c).2 := by
  cases call with
  | compile d =>
    have hcompile := compile_cases table d c
    rw [Call.run]
    split <;> rename_i hrun <;> simpa [Call.type, hrun] using hcompile
  | define d =>
    have hdefine := defineType_cases table d c
    rw [Call.run]
    split <;> rename_i hrun <;> simpa [Call.type, hrun] using hdefine

theorem Call.run_failed (hfailed : (c.compile table d).1.toOption.isNone = true) :
    ∃ e, Call.run table (.compile d) c = (.failure e, (c.compile table d).2) := by
  rw [Call.run]
  cases hrun : c.compile table d with
  | mk outcome c' =>
    cases outcome with
    | error e => exact ⟨e, rfl⟩
    | ok t => simp [hrun, Except.toOption] at hfailed

/-- No composite that contains its own key lies on a trail that is too deep. -/
def FailsSafely (table : SlotTable) (depth : Nat) (d : Descriptor) : Prop :=
  ∀ trail, OverDeep table depth d trail → ∀ a ∈ trail, a.path ≠ [] → ¬ a.ContainsOwnKey table

theorem failsSafely_of_acyclic {depth : Nat} (h : Acyclic table [d]) : FailsSafely table depth d := by
  rintro (_ | ⟨first, rest⟩) ⟨hhead, htrail, -⟩ a ha hpath
  · cases hhead
  · cases hhead
    exact h a ⟨hpath, htrail.reachedFrom a ha⟩

/-- The definitions that are missing are those of composites on the trail that contain themselves. -/
theorem Stops.missing {trail : List Descriptor} (h : Stops table c [d] trail c') (hprocessing : c.processing = [])
    (hclosed : c.Closed) :
    c'.ClosedUpTo fun key => ∃ a ∈ trail, a.path ≠ [] ∧ a.ContainsOwnKey table ∧ a.key = key := by
  refine h.closedUpTo ?_ (fun a ha hpath hown => ⟨a, ha, hpath, hown, rfl⟩) (hclosed.upTo _)
  rw [hprocessing]
  exact nofun

theorem Call.run_closed {call : Call} (hprocessing : c.processing = []) (hclosed : c.Closed)
    (hsafe : (∃ e, (call.run table c).1 = .failure e) → FailsSafely table c.inlineDepth call.type) :
    (call.run table c).2.Closed := by
  rcases call.run_cases table c with ⟨t, hcompiles⟩ | ⟨hfailed, trail, hstops⟩
  · exact (hcompiles.keeps_closed hprocessing hclosed).2
  · refine (hstops.missing hprocessing hclosed).closed ?_
    rintro key ⟨a, ha, hpath, hown, -⟩
    exact hsafe hfailed trail (hstops.overDeep hprocessing) a ha hpath hown

/-- The calls of the session that fail do so safely. -/
def Recovers (table : SlotTable) (calls : List Call) (c : Compiler) : Prop :=
  ∀ run ∈ calls.zip (session table calls c).1, (∃ e, run.2 = .failure e) → FailsSafely table c.inlineDepth run.1.type

theorem session_closed {calls : List Call} (hprocessing : c.processing = []) (hclosed : c.Closed)
    (hrecovers : Recovers table calls c) : (session table calls c).2.Closed := by
  induction calls generalizing c with
  | nil => exact hclosed
  | cons call rest ih =>
    obtain ⟨hcall, hrest⟩ := List.forall_mem_cons.mp hrecovers
    have hgrows := Grows.call table call c
    rw [← hgrows.inlineDepth] at hrest
    exact ih (hgrows.processing.trans hprocessing) (Call.run_closed hprocessing hclosed hcall) hrest

/-- **What a failed call leaves behind.** Let every name that a definition refers to be defined, and let a call fail.
Then only composites that contain themselves can be referred to without being defined, and they lie on one trail that
is nested too deep, whose composites have no definition. When there is none on such trails, every name that a
definition refers to is still defined, and later calls answer and define with names that are defined, however many
more of them fail in the same way. -/
theorem failure_closed {call : Call} {e : GenerationError} (hprocessing : c.processing = []) (hclosed : c.Closed)
    (hfailed : call.run table c = (.failure e, c')) :
    (∃ trail, (trail = [] ∨ OverDeep table c.inlineDepth call.type trail) ∧
      (∀ definition ∈ c'.definitions, ∀ name ∈ definition.references, name ∈ c'.definitions.map (·.name) ∨
        ∃ a ∈ trail, a.path ≠ [] ∧ a.ContainsOwnKey table ∧ c'.names.lookup a.key = some name) ∧
      (c.Coherent → ∀ a ∈ trail, a.path ≠ [] →
        ∃ name, c'.names.lookup a.key = some name ∧ name ∉ c'.definitions.map (·.name))) ∧
    (FailsSafely table c.inlineDepth call.type → c'.Closed ∧
      ∀ later, Recovers table later c' → ∀ d t c'', (session table later c').2.compile table d = (.ok t, c'') →
        c''.Closed ∧ ∀ name ∈ t.references, name ∈ c''.definitions.map (·.name)) := by
  have hstate : (call.run table c).2 = c' := congrArg Prod.snd hfailed
  constructor
  · rcases call.run_cases table c with ⟨t, hcompiles⟩ | ⟨-, trail, hstops⟩
    · rw [hstate] at hcompiles
      obtain ⟨-, hclosed'⟩ := hcompiles.keeps_closed hprocessing hclosed
      exact ⟨[], .inl rfl, fun definition hd name hname => .inl (hclosed' definition hd name hname), nofun⟩
    · rw [hstate] at hstops
      refine ⟨trail, .inr (hstops.overDeep hprocessing), fun definition hd name hname => ?_, hstops.trail_undefined⟩
      rcases hstops.missing hprocessing hclosed definition hd name hname with
        hdefined | ⟨_, ⟨a, ha, hpath, hown, rfl⟩, hlookup⟩
      · exact .inl hdefined
      · exact .inr ⟨a, ha, hpath, hown, hlookup⟩
  · intro hsafe
    have hclosed' : c'.Closed := hstate ▸ Call.run_closed hprocessing hclosed fun _ => hsafe
    have hprocessing' : c'.processing = [] := hstate ▸ (Grows.call table call c).processing.trans hprocessing
    refine ⟨hclosed', fun later hrecovers d t c'' hrun => ?_⟩
    have hlater := session_closed hprocessing' hclosed' hrecovers
    have hgrows := Grows.law.session table later c'
    obtain ⟨hanswers, hclosed''⟩ := (compile_ok hrun).keeps_closed (hgrows.processing.trans hprocessing') hlater
    refine ⟨hclosed'', fun name hname => hanswers name ?_⟩
    rwa [List.flatMap_singleton]

end

/-- A composite with a field that is written out inside itself without end is not defined; the one it was defined with
before is, and nothing is missing for types that use it. -/
theorem failure_closed_tag :
    let table : SlotTable := [("chain", [.leaveable "next" (.inline (.deferred "chain"))])]
    let tag : Descriptor := .named "pkg::Tag" (.listed [])
    let holder : Descriptor :=
      .named "pkg::Holder" (.listed [.plain "tag" tag, .plain "chain" (.inline (.deferred "chain"))])
    let c' := (Compiler.empty.compile table holder).2
    c'.definitions.map (·.name) = ["pkg_Tag"] ∧ c'.Closed ∧
    (∃ e, Call.run table (.compile holder) .empty = (.failure e, c')) ∧
    ∀ d t c'', c'.compile table d = (.ok t, c'') →
      c''.Closed ∧ ∀ name ∈ t.references, name ∈ c''.definitions.map (·.name) := by
  intro table tag holder c'
  have hnames : c'.definitions.map (·.name) = ["pkg_Tag"] := by
    decide +kernel
  have hbelow (d : Descriptor) (hd : ReachedFrom table (holder.parts table) d) :
      d = tag ∨ d = .inline (.deferred "chain") := by
    refine hd.mem_of_closed (S := fun d => d = tag ∨ d = .inline (.deferred "chain"))
      (fun root hroot => List.mem_pair.mp hroot) ?_
    rintro d (rfl | rfl) part hpart
    · exact absurd hpart List.not_mem_nil
    · exact .inr (List.mem_singleton.mp hpart)
  have hacyclic : Acyclic table [holder] := by
    rintro a ⟨hpath, ha⟩ ⟨e, ⟨hpath', he⟩, hkey⟩
    rcases ha.eq_or_below with rfl | ha
    · rcases hbelow e he with rfl | rfl
      · exact absurd hkey (by decide +kernel)
      · exact hpath' rfl
    · rcases hbelow a ha with rfl | rfl
      · obtain ⟨root, hroot, -⟩ := he
        exact absurd hroot List.not_mem_nil
      · exact hpath rfl
  obtain ⟨e, hfailed⟩ : ∃ e, Call.run table (.compile holder) .empty = (.failure e, c') :=
    Call.run_failed (by decide +kernel)
  have hempty : Compiler.empty.Closed := nofun
  clear_value c'
  obtain ⟨-, hsafe⟩ := failure_closed rfl hempty hfailed
  obtain ⟨hclosed, hlater⟩ := hsafe (failsSafely_of_acyclic hacyclic)
  exact ⟨hnames, hclosed, ⟨e, hfailed⟩, hlater [] nofun⟩

/-- Two composites that contain each other, the outer one of which has a field that is written out inside itself
without end. The inner one is defined first, refers to the outer one, and is answered although that has no definition. -/
theorem failure_dangles :
    let table : SlotTable :=
      [("holder", [.plain "item" (.named "pkg::Item" (.deferred "item")), .plain "chain" (.inline (.deferred "chain"))]),
       ("item", [.plain "holder" (.named "pkg::Holder" (.deferred "holder"))]),
       ("chain", [.leaveable "next" (.inline (.deferred "chain"))])]
    let holder : Descriptor := .named "pkg::Holder" (.deferred "holder")
    let item : Descriptor := .named "pkg::Item" (.deferred "item")
    let c' := (Compiler.empty.compile table holder).2
    Compiler.empty.processing = [] ∧ Compiler.empty.Closed ∧
    (∃ e, Call.run table (.compile holder) .empty = (.failure e, c')) ∧ ¬ c'.Closed ∧
    (c'.compile table item).1.toOption.map TypeExpr.print = some "pkg_Item" ∧
    (c'.compile table item).2.definitions.map (fun definition => (definition.name, definition.references)) =
      [("pkg_Item", ["pkg_Holder"])] := by
  intro table holder item c'
  have hfailed : ∃ e, Call.run table (.compile holder) .empty = (.failure e, c') :=
    Call.run_failed (by decide +kernel)
  exact ⟨rfl, nofun, hfailed, by decide +kernel, by decide +kernel, by decide +kernel⟩

end TypedRpc.Compiler
