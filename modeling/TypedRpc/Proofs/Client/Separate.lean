import TypedRpc.Proofs.Client.Order
import TypedRpc.Proofs.Compiler.Completeness
import TypedRpc.Proofs.Compiler.Separate

/-!
# Handlers described one by one

Main statement: where composites agree on their fields, a registry whose handlers can be described one by one has a
client; where they agree on names too, the client holds what the descriptions hold, and nothing else.
-/

namespace TypedRpc.Client

open TypedRpc.TypeScript

/-! ## From derivations to clients -/

theorem compileSignature_of_compiles {slots : SlotTable} {registration : Registration} {c c' : Compiler}
    {ts : List TypeExpr} (h : c.Compiles slots registration.types ts c') :
    ∃ compiled, Registry.compileSignature slots registration.signature c = (.ok compiled, c') := by
  obtain ⟨input, _, c₁, rfl, hinput, hrest⟩ := h.split
  obtain ⟨output, _, _, rfl, houtput, hnil⟩ := hrest.split
  cases hnil
  have hrun := Compiler.compile_iff.mpr hinput
  have hrun' := Compiler.compile_iff.mpr houtput
  refine ⟨⟨input, output⟩, ?_⟩
  rw [Registry.compileSignature, hrun]
  dsimp only
  rw [hrun']

/-- Handlers, the types of each of which compile on their own, compile one after the other. -/
theorem compileAll_of_separate {slots : SlotTable} {registrations : List Registration} {seen : List Descriptor}
    {us : List TypeExpr} {c : Compiler} (hseen : Compiler.empty.Compiles slots seen us c)
    (hconsistent : Descriptor.Consistent slots (seen ++ registrations.flatMap Registration.types))
    (h : ∀ registration ∈ registrations, ∃ ts c', Compiler.empty.Compiles slots registration.types ts c') :
    ∃ aliases c', compileAll slots registrations c = (.ok aliases, c') := by
  induction registrations generalizing seen us c with
  | nil => exact ⟨[], c, rfl⟩
  | cons registration rest ih =>
    rw [List.flatMap_cons, ← List.append_assoc] at hconsistent
    obtain ⟨⟨ts, c', halone⟩, hrest⟩ := List.forall_mem_cons.mp h
    obtain ⟨vs, c₁, hrun⟩ := halone.after hseen (hconsistent.of_subset (List.subset_append_left ..))
    obtain ⟨compiled, hcompiled⟩ := compileSignature_of_compiles hrun
    obtain ⟨aliases, c₂, haliases⟩ := ih (hseen.append hrun) hconsistent hrest
    refine ⟨aliasOf registration compiled :: aliases, c₂, ?_⟩
    rw [compileAll, hcompiled]
    dsimp only
    rw [haliases]
    rfl

theorem describe_ok {registry : Registry} {registration : Registration} {compiled : Registry.CompiledSignature}
    {definitions : List Definition} (h : registry.describe registration = .ok (compiled, definitions)) :
    ∃ c, Compiler.empty.Compiles registry.slots registration.types [compiled.input, compiled.output] c ∧
      definitions = c.definitions := by
  unfold Registry.describe at h
  split at h
  · cases h
  · rename_i c hrun
    cases h
    exact ⟨c, compileSignature_ok hrun, rfl⟩

/-! ## Handlers on their own -/

theorem types_subset {registry : Registry} {registration : Registration}
    (h : registration ∈ registry.registrations) : registration.types ⊆ registry.types :=
  fun _ hd => List.mem_flatMap.mpr ⟨registration, h, hd⟩

/-- What the handlers need together is what each of them needs. -/
theorem namedFrom_types {registry : Registry} {slots : SlotTable} {d : Descriptor} :
    Descriptor.NamedFrom slots registry.types d ↔
      ∃ registration ∈ registry.registrations, Descriptor.NamedFrom slots registration.types d := by
  constructor
  · rintro ⟨hpath, root, hroot, hreaches⟩
    obtain ⟨registration, hregistration, hroot⟩ := List.mem_flatMap.mp hroot
    exact ⟨registration, hregistration, hpath, root, hroot, hreaches⟩
  · rintro ⟨registration, hregistration, hd⟩
    exact hd.of_subset (types_subset hregistration)

/-- The description of a handler. -/
def Describes (registry : Registry) (registration : Registration) (entry : Alias) (definitions : List Definition) :
    Prop :=
  ∃ compiled, registry.describe registration = .ok (compiled, definitions) ∧ entry = aliasOf registration compiled

/-- **Handlers agree with their descriptions.** Suppose that composites which handlers use have one key only if they
have the same fields, and that each handler can be described on its own. Then the registry has a client. Suppose
moreover that composites have one key if and only if they have the same short name. Then the types of each handler are
those of its description, and the definitions are those of the descriptions. -/
theorem ofRegistry_separate {registry : Registry} (hconsistent : Descriptor.Consistent registry.slots registry.types)
    (hdescribe : ∀ registration ∈ registry.registrations, ∃ compiled definitions,
      registry.describe registration = .ok (compiled, definitions)) :
    ∃ client, ofRegistry registry = .ok client ∧
      (Descriptor.Distinct registry.slots registry.types → Descriptor.Unambiguous registry.slots registry.types →
        List.Forall₂ (fun registration entry => ∃ definitions, Describes registry registration entry definitions)
          registry.registrations client.aliases ∧
        ∀ definition, definition ∈ client.definitions ↔ ∃ registration ∈ registry.registrations,
          ∃ entry definitions, Describes registry registration entry definitions ∧ definition ∈ definitions) := by
  have hseparate : ∀ registration ∈ registry.registrations,
      ∃ ts c, Compiler.empty.Compiles registry.slots registration.types ts c := by
    intro registration hregistration
    obtain ⟨compiled, definitions, h⟩ := hdescribe registration hregistration
    obtain ⟨c, hrun, -⟩ := describe_ok h
    exact ⟨_, c, hrun⟩
  obtain ⟨aliases, c, hall⟩ := compileAll_of_separate .nil hconsistent hseparate
  have hclient : ofRegistry registry = .ok ⟨c.definitions, aliases, groupsOf registry.registrations⟩ := by
    rw [ofRegistry, hall]
  refine ⟨_, hclient, fun hdistinct hunambiguous => ?_⟩
  obtain ⟨hrun, haliases⟩ := compileAll_ok hall
  -- alone, a handler gets the names that it gets among the others
  have hextended {registration : Registration} {ts : List TypeExpr} {c' : Compiler}
      (hregistration : registration ∈ registry.registrations)
      (h : Compiler.empty.Compiles registry.slots registration.types ts c') : c'.ExtendedBy c.naming :=
    hrun.extendedBy_of_subset h (types_subset hregistration) hconsistent hdistinct hunambiguous
  constructor
  · rw [aliases_eq_map haliases (hrun.rendered (Compiler.extendedBy_naming c) (Nat.le_add_left _ _)),
      List.forall₂_map_right_iff, List.forall₂_same]
    intro registration hregistration
    obtain ⟨compiled, definitions, h⟩ := hdescribe registration hregistration
    obtain ⟨c', halone, -⟩ := describe_ok h
    have hrendered := halone.rendered (hextended hregistration halone) (Nat.le_add_left _ _)
    simp only [Registration.types, List.forall₂_cons, List.forall₂_nil_left_iff, and_true] at hrendered
    refine ⟨definitions, compiled, h, ?_⟩
    rw [renderAlias, Compiler.renderType, Compiler.renderType, hrendered.1, hrendered.2]
    rfl
  · intro definition
    rw [hrun.mem_definitions_iff hconsistent (Compiler.extendedBy_naming c)]
    constructor
    · rintro ⟨d, hd, hrest⟩
      obtain ⟨registration, hregistration, hd⟩ := namedFrom_types.mp hd
      obtain ⟨compiled, definitions, h⟩ := hdescribe registration hregistration
      obtain ⟨c', halone, rfl⟩ := describe_ok h
      refine ⟨registration, hregistration, _, _, ⟨compiled, h, rfl⟩, ?_⟩
      exact (halone.mem_definitions_iff (hconsistent.of_subset (types_subset hregistration))
        (hextended hregistration halone)).mpr ⟨d, hd, hrest⟩
    · rintro ⟨registration, hregistration, _, _, ⟨compiled, h, -⟩, hdefinition⟩
      obtain ⟨c', halone, rfl⟩ := describe_ok h
      obtain ⟨d, hd, hrest⟩ := (halone.mem_definitions_iff (hconsistent.of_subset (types_subset hregistration))
        (hextended hregistration halone)).mp hdefinition
      exact ⟨d, hd.of_subset (types_subset hregistration), hrest⟩

/-- Two types that contain each other, each of which a handler needs first. -/
theorem ofRegistry_separate_left_right :
    let slots : SlotTable :=
      [("left", [.plain "right" (.named "x::Right" (.deferred "right"))]),
       ("right", [.plain "left" (.named "x::Left" (.deferred "left"))])]
    let left : Descriptor := .named "x::Left" (.deferred "left")
    let right : Descriptor := .named "x::Right" (.deferred "right")
    let lefts : RouteIdentity := ⟨"pairs", "lefts", by decide, by decide⟩
    let rights : RouteIdentity := ⟨"pairs", "rights", by decide, by decide⟩
    let entry := fun identity type =>
      (identity.key, (Registry.empty .root slots).record identity ⟨type, type⟩)
    let registry : Registry := ⟨.root, slots, [entry lefts left, entry rights right]⟩
    Descriptor.Consistent slots registry.types ∧ Descriptor.Distinct slots registry.types ∧
    Descriptor.Unambiguous slots registry.types ∧
    registry.registrations.map (fun registration => (registry.describe registration).toOption.map fun described =>
      (described.1.output.print, described.2.map (·.name))) =
        [some ("x_Left", ["x_Right", "x_Left"]), some ("x_Right", ["x_Left", "x_Right"])] ∧
    ∃ client, ofRegistry registry = .ok client ∧
      List.Forall₂ (fun registration entry => ∃ definitions, Describes registry registration entry definitions)
        registry.registrations client.aliases ∧
      ∀ definition, definition ∈ client.definitions ↔ ∃ registration ∈ registry.registrations,
        ∃ entry definitions, Describes registry registration entry definitions ∧ definition ∈ definitions := by
  intro slots left right lefts rights entry registry
  have hnodes (d : Descriptor) (hd : Descriptor.NamedFrom slots registry.types d) : d ∈ [left, right] := by
    refine hd.2.mem_of_closed (S := (· ∈ [left, right])) (fun root hroot => ?_) (fun d hd part hpart => ?_)
    · have hroot : root ∈ [left, left, right, right] := hroot
      simpa using hroot
    · rcases List.mem_pair.mp hd with rfl | rfl
      · exact List.mem_cons_of_mem _ hpart
      · exact List.mem_cons.mpr (.inl (List.mem_singleton.mp hpart))
  have hkeys : ([left, right].map Descriptor.key).Nodup := by
    decide +kernel
  have hconsistent := Descriptor.consistent_of_nodup hnodes hkeys
  have hdistinct : Descriptor.Distinct slots registry.types :=
    Descriptor.distinct_of_nodup hnodes (by decide +kernel)
  have hunambiguous := Descriptor.unambiguous_of_nodup hnodes hkeys
  have hshown : registry.registrations.map (fun registration =>
      (registry.describe registration).toOption.map fun described =>
        (described.1.output.print, described.2.map (·.name))) =
      [some ("x_Left", ["x_Right", "x_Left"]), some ("x_Right", ["x_Left", "x_Right"])] := by
    decide +kernel
  have hdescribe : ∀ registration ∈ registry.registrations, ∃ compiled definitions,
      registry.describe registration = .ok (compiled, definitions) := by
    intro registration hregistration
    have hmember := List.mem_map_of_mem hregistration
      (f := fun registration => (registry.describe registration).toOption.map fun described =>
        (described.1.output.print, described.2.map (·.name)))
    rw [hshown] at hmember
    cases hrun : registry.describe registration with
    | error e => simp [hrun, Except.toOption] at hmember
    | ok described => exact ⟨described.1, described.2, rfl⟩
  obtain ⟨client, hclient, hagrees⟩ := ofRegistry_separate hconsistent hdescribe
  obtain ⟨haliases, hdefinitions⟩ := hagrees hdistinct hunambiguous
  exact ⟨hconsistent, hdistinct, hunambiguous, hshown, client, hclient, haliases, hdefinitions⟩

/-- Two paths that differ in where a colon stands have one key and two short names: the second one gets its own name
alone, and that of the first one after it. -/
theorem ofRegistry_separate_colons :
    let a : Descriptor := .named "a:.b" (.listed [])
    let b : Descriptor := .named "a.:b" (.listed [])
    let first : RouteIdentity := ⟨"colons", "first", by decide, by decide⟩
    let second : RouteIdentity := ⟨"colons", "second", by decide, by decide⟩
    let entry := fun identity type =>
      (identity.key, (Registry.empty .root []).record identity ⟨type, type⟩)
    let registry : Registry := ⟨.root, [], [entry first a, entry second b]⟩
    Descriptor.Consistent [] registry.types ∧ Descriptor.Distinct [] registry.types ∧
    registry.registrations.map (fun registration => (registry.describe registration).toOption.map fun described =>
      (described.1.output.print, described.2.map Definition.print)) =
        [some ("a:_b", ["type a:_b = \x7b\x7d"]), some ("a_:b", ["type a_:b = \x7b\x7d"])] ∧
    ∃ client, ofRegistry registry = .ok client ∧
      client.aliases.map (·.output.print) = ["a:_b", "a:_b"] ∧
      client.definitions.map Definition.print = ["type a:_b = \x7b\x7d"] ∧
      ¬ List.Forall₂ (fun registration entry => ∃ definitions, Describes registry registration entry definitions)
        registry.registrations client.aliases := by
  intro a b first second entry registry
  have hnodes (d : Descriptor) (hd : Descriptor.NamedFrom [] registry.types d) : d ∈ [a, b] := by
    refine hd.2.mem_of_closed (S := (· ∈ [a, b])) (fun root hroot => ?_) (fun d hd part hpart => ?_)
    · have hroot : root ∈ [a, a, b, b] := hroot
      simpa using hroot
    · rcases List.mem_pair.mp hd with rfl | rfl <;> exact absurd hpart List.not_mem_nil
  have hconsistent : Descriptor.Consistent [] registry.types := by
    intro d e hd he _
    rcases List.mem_pair.mp (hnodes d hd) with rfl | rfl <;>
      rcases List.mem_pair.mp (hnodes e he) with rfl | rfl <;> rfl
  have hdistinct : Descriptor.Distinct [] registry.types :=
    Descriptor.distinct_of_nodup hnodes (by decide +kernel)
  have hdescribed : registry.registrations.map (fun registration =>
      (registry.describe registration).toOption.map fun described =>
        (described.1.output.print, described.2.map Definition.print)) =
      [some ("a:_b", ["type a:_b = \x7b\x7d"]), some ("a_:b", ["type a_:b = \x7b\x7d"])] := by
    decide +kernel
  have hshown : (ofRegistry registry).toOption.map (fun client =>
      (client.aliases.map (·.output.print), client.definitions.map Definition.print)) =
      some (["a:_b", "a:_b"], ["type a:_b = \x7b\x7d"]) := by
    decide +kernel
  obtain ⟨client, hclient, hshown⟩ := exists_client hshown
  obtain ⟨htokens, htexts⟩ := Prod.mk.inj hshown
  refine ⟨hconsistent, hdistinct, hdescribed, client, hclient, htokens, htexts, fun hagrees => ?_⟩
  -- the tokens of the descriptions would be those of the client
  have htold : registry.registrations.map (fun registration =>
      (registry.describe registration).toOption.map (·.1.output.print)) =
        client.aliases.map (fun entry => some entry.output.print) := by
    refine List.forall₂_eq_eq_eq ▸ (List.forall₂_map_left_iff.mpr (List.forall₂_map_right_iff.mpr ?_))
    refine hagrees.imp ?_
    rintro registration entry ⟨definitions, compiled, hdescribe, rfl⟩
    simp [hdescribe, Except.toOption, aliasOf]
  have hsecond : "a_:b" ∈ client.aliases.map (·.output.print) := by
    have hmember : some "a_:b" ∈ client.aliases.map (fun entry => some entry.output.print) := by
      rw [← htold]
      decide +kernel
    simpa using hmember
  rw [htokens] at hsecond
  exact absurd hsecond (by decide)

end TypedRpc.Client
