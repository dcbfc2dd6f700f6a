import TypedRpc.Proofs.Client.Compiled
import TypedRpc.Proofs.Client.Groups

/-!
# One more handler

The types of a new handler are compiled after those of the others, by a compiler that keeps what it has, so the run
for the others is the first part of the run for all (`compileAll_append`). Main statement: the client for one more
handler is the client for the others with something added at the end of each of its parts.
-/

namespace TypedRpc.Client

open TypedRpc.TypeScript

/-- To compile the types of more handlers is to go on where the first ones ended. -/
theorem compileAll_append (slots : SlotTable) (registrations later : List Registration) (c : Compiler) :
    compileAll slots (registrations ++ later) c =
      match compileAll slots registrations c with
      | (.error e, c) => (.error e, c)
      | (.ok aliases, c) => ((compileAll slots later c).1.map (aliases ++ ·), (compileAll slots later c).2) := by
  induction registrations generalizing c with
  | nil =>
    rw [List.nil_append, compileAll]
    dsimp only
    obtain ⟨_ | aliases, c₁⟩ := compileAll slots later c <;> rfl
  | cons registration rest ih =>
    rw [List.cons_append, compileAll, compileAll]
    obtain ⟨_ | compiled, c₁⟩ := Registry.compileSignature slots registration.signature c
    · rfl
    · dsimp only
      rw [ih]
      obtain ⟨_ | aliases, c₂⟩ := compileAll slots rest c₁
      · rfl
      · dsimp only [Except.map]
        cases (compileAll slots later c₂).1 <;> rfl

/-- A run for more handlers begins with one for the first of them. -/
theorem compileAll_snoc_ok {slots : SlotTable} {registrations : List Registration} {registration : Registration}
    {c c' : Compiler} {aliases : List Alias}
    (h : compileAll slots (registrations ++ [registration]) c = (.ok aliases, c')) :
    ∃ first c₁ entry, compileAll slots registrations c = (.ok first, c₁) ∧
      compileAll slots [registration] c₁ = (.ok [entry], c') ∧ aliases = first ++ [entry] ∧
      entry = aliasOf registration ⟨entry.input, entry.output⟩ := by
  rw [compileAll_append] at h
  split at h
  · cases h
  · rename_i first c₁ hfirst
    obtain ⟨hresult, rfl⟩ := Prod.mk.inj h
    generalize hlast : compileAll slots [registration] c₁ = outcome at hresult
    obtain ⟨_ | last, c₂⟩ := outcome
    · cases hresult
    · obtain rfl := Except.ok.inj hresult
      obtain ⟨entry, rest, hentry, hrest, rfl⟩ := List.forall₂_cons_left_iff.mp (compileAll_ok hlast).2
      obtain rfl := List.forall₂_nil_left_iff.mp hrest
      exact ⟨first, c₁, entry, hfirst, hlast, rfl, hentry⟩

/-- A method goes to the end of the group of its namespace, or into a new group at the end. -/
theorem addMethod_cases (ns : String) (method : Method) (groups : List Group) :
    (∃ before methods after, groups = before ++ ⟨ns, methods⟩ :: after ∧ ns ∉ before.map (·.ns) ∧
      addMethod ns method groups = before ++ ⟨ns, methods ++ [method]⟩ :: after) ∨
    (ns ∉ groups.map (·.ns) ∧ addMethod ns method groups = groups ++ [⟨ns, [method]⟩]) := by
  induction groups with
  | nil => exact .inr ⟨List.not_mem_nil, rfl⟩
  | cons group rest ih =>
    by_cases h : group.ns = ns
    · obtain ⟨_, methods⟩ := group
      obtain rfl := h
      exact .inl ⟨[], methods, rest, rfl, List.not_mem_nil, if_pos rfl⟩
    · have hadd : addMethod ns method (group :: rest) = group :: addMethod ns method rest := if_neg h
      rcases ih with ⟨before, methods, after, rfl, hbefore, heq⟩ | ⟨hrest, heq⟩
      · refine .inl ⟨group :: before, methods, after, rfl, ?_, by rw [hadd, heq, List.cons_append]⟩
        simpa [Ne.symm h] using hbefore
      · refine .inr ⟨?_, by rw [hadd, heq, List.cons_append]⟩
        simpa [Ne.symm h] using hrest

/-- **One more handler adds at the end.** A handler with a new key can be registered after the others, and if there is
a client with it, there is one without it. The definitions and the aliases of that client stand in the new one,
unchanged and in front of what is added, which is one entry to the aliases. The groups stay as they are, but for the
method of the handler: it is the last one of the group of its namespace, or alone in a new last group. -/
theorem ofRegistry_register {α β : Type} {registry : Registry} {router : Router} {identity : RouteIdentity}
    {signature : Signature} {handler : Handler α β} (hnew : registry.get? identity.key = none) :
    let entry := registry.record identity signature
    ∃ later router', registry.register router identity signature handler = .ok (entry, later, router') ∧
      later.registrations = registry.registrations ++ [entry] ∧
      ∀ client', ofRegistry later = .ok client' → ∃ client, ofRegistry registry = .ok client ∧
        client.definitions <+: client'.definitions ∧
        (∃ input output, client'.aliases = client.aliases ++ [aliasOf entry ⟨input, output⟩]) ∧
        ((∃ before methods after, client.groups = before ++ ⟨identity.ns, methods⟩ :: after ∧
            identity.ns ∉ before.map (·.ns) ∧
            client'.groups = before ++ ⟨identity.ns, methods ++ [methodOf entry]⟩ :: after) ∨
          (identity.ns ∉ client.groups.map (·.ns) ∧
            client'.groups = client.groups ++ [⟨identity.ns, [methodOf entry]⟩])) := by
  intro entry
  let later : Registry := { registry with handlers := registry.handlers ++ [(identity.key, entry)] }
  have hregistrations : later.registrations = registry.registrations ++ [entry] := by
    simp [later, Registry.registrations]
  refine ⟨later, _, by rw [Registry.register, hnew], hregistrations, fun client' h => ?_⟩
  rw [ofRegistry, hregistrations] at h
  split at h
  · cases h
  · rename_i aliases c hrun
    obtain rfl := Except.ok.inj h
    obtain ⟨first, c₁, last, hfirst, hlast, rfl, hentry⟩ := compileAll_snoc_ok hrun
    refine ⟨⟨c₁.definitions, first, groupsOf registry.registrations⟩, by rw [ofRegistry, hfirst],
      (compileAll_ok hlast).1.grows.definitions, ⟨last.input, last.output, by rw [← hentry]⟩, ?_⟩
    rw [groupsOf_snoc]
    exact addMethod_cases identity.ns (methodOf entry) (groupsOf registry.registrations)

/-- The new handler uses a type of an older definition, and another one whose short name is taken. -/
theorem ofRegistry_register_left :
    let slots : SlotTable :=
      [("left", [.plain "right" (.named "x::Right" (.deferred "right"))]),
       ("right", [.plain "left" (.named "x::Left" (.deferred "left"))])]
    let left : Descriptor := .named "x::Left" (.deferred "left")
    let right : Descriptor := .named "x::Right" (.deferred "right")
    let other : Descriptor := .named "y::x::Left" (.listed [.plain "right" right])
    let lefts : RouteIdentity := ⟨"pairs", "lefts", by decide, by decide⟩
    let others : RouteIdentity := ⟨"pairs", "others", by decide, by decide⟩
    let registry : Registry :=
      ⟨.root, slots, [(lefts.key, (Registry.empty .root slots).record lefts ⟨.inline (.listed []), left⟩)]⟩
    let answering : Handler Unit String := ⟨fun _ => .ok (), fun _ _ => .value "", fun text => .ok (.string text)⟩
    let entry := registry.record others ⟨right, other⟩
    let later : Registry := { registry with handlers := registry.handlers ++ [(others.key, entry)] }
    registry.get? others.key = none ∧
    (registry.register .empty others ⟨right, other⟩ answering).map (·.2.1) = .ok later ∧
    ∃ client client', ofRegistry registry = .ok client ∧ ofRegistry later = .ok client' ∧
      client.definitions.map (·.name) = ["x_Right", "x_Left"] ∧
      client'.definitions.map (·.name) = ["x_Right", "x_Left", "y_x_Left"] ∧
      client.definitions <+: client'.definitions := by
  intro slots left right other lefts others registry answering entry later
  have hnew : registry.get? others.key = none := Option.isNone_iff_eq_none.mp (by decide +kernel)
  have hlater : (registry.register .empty others ⟨right, other⟩ answering).map (·.2.1) = .ok later := rfl
  obtain ⟨registered, _, hregister, -, hclients⟩ :=
    @ofRegistry_register _ _ registry .empty others ⟨right, other⟩ answering hnew
  have hsame : registered = later := by
    rw [hregister] at hlater
    exact Except.ok.inj hlater
  have hshown : (ofRegistry registry).toOption.map (·.definitions.map (·.name)) = some ["x_Right", "x_Left"] := by
    decide +kernel
  have hshown' : (ofRegistry later).toOption.map (·.definitions.map (·.name)) =
      some ["x_Right", "x_Left", "y_x_Left"] := by
    decide +kernel
  obtain ⟨client, hclient, hshown⟩ := exists_client hshown
  obtain ⟨client', hclient', hshown'⟩ := exists_client hshown'
  obtain ⟨first, hfirst, hdefinitions, -⟩ := hclients client' (hsame ▸ hclient')
  obtain rfl : first = client := Except.ok.inj (hfirst.symm.trans hclient)
  exact ⟨hnew, hlater, first, client', hclient, hclient', hshown, hshown', hdefinitions⟩

end TypedRpc.Client
