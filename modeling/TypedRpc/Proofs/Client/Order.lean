import TypedRpc.Proofs.Client.Compiled
import TypedRpc.Proofs.Compiler.Order

/-!
# The order of registration

Main statement: where composites agree on names and fields, registering handlers in another order changes the
order of what a client exports and nothing else.
-/

namespace TypedRpc.Client

open TypedRpc.TypeScript

/-- The aliases of a handler under a naming. -/
def renderAlias (slots : SlotTable) (naming : Compiler.Naming) (registration : Registration) : Alias :=
  aliasOf registration
    ⟨(Compiler.renderType slots naming registration.signature.input).getD default,
      (Compiler.renderType slots naming registration.signature.output).getD default⟩

theorem aliases_eq_map {slots : SlotTable} {naming : Compiler.Naming} {registrations : List Registration}
    {aliases : List Alias}
    (haliases : List.Forall₂
      (fun registration entry => entry = aliasOf registration ⟨entry.input, entry.output⟩) registrations aliases)
    (htypes : List.Forall₂ (fun d t => Compiler.renderType slots naming d = some t)
      (registrations.flatMap Registration.types) (aliases.flatMap Alias.types)) :
    aliases = registrations.map (renderAlias slots naming) := by
  induction haliases with
  | nil => rfl
  | @cons registration entry _ _ hentry _ ih =>
    simp only [Registration.types, Alias.types, List.flatMap_cons, List.cons_append, List.nil_append,
      List.forall₂_cons] at htypes
    obtain ⟨hinput, houtput, hrest⟩ := htypes
    rw [List.map_cons, ← ih hrest, renderAlias, hinput, houtput]
    exact congrArg (· :: _) hentry

/-- **The order of registration does not matter.** Suppose that composites which handlers use have one key only
if they have the same fields, and one key if and only if they have the same short name. Then the clients for two
orders of the handlers have the same definitions up to their order, and each handler has the same aliases in
both. -/
theorem ofRegistry_perm {registry : Registry} {handlers : List (String × Registration)}
    {client client' : Client} (hperm : registry.handlers.Perm handlers)
    (hconsistent : Descriptor.Consistent registry.slots registry.types)
    (hdistinct : Descriptor.Distinct registry.slots registry.types)
    (hunambiguous : Descriptor.Unambiguous registry.slots registry.types)
    (h : ofRegistry registry = .ok client) (h' : ofRegistry { registry with handlers } = .ok client') :
    client.definitions.Perm client'.definitions ∧
    ∃ aliasesOf : Registration → Alias,
      client.aliases = registry.registrations.map aliasesOf ∧
      client'.aliases = (handlers.map (·.2)).map aliasesOf := by
  obtain ⟨c, hrun, hdefinitions, haliases⟩ := ofRegistry_ok h
  obtain ⟨c', hrun', hdefinitions', haliases'⟩ := ofRegistry_ok h'
  have hregistrations : registry.registrations.Perm (Registry.registrations { registry with handlers }) :=
    hperm.map Prod.snd
  have htypes : registry.types.Perm (Registry.types { registry with handlers }) :=
    hregistrations.flatMap_right _
  obtain ⟨hnaming, hsame⟩ := hrun.perm hrun' htypes hconsistent hdistinct hunambiguous
  refine ⟨by rwa [hdefinitions, hdefinitions'], renderAlias registry.slots c.naming, ?_, ?_⟩
  · exact aliases_eq_map haliases (hrun.rendered (Compiler.extendedBy_naming c) (Nat.le_add_left _ _))
  · rw [hnaming]
    exact aliases_eq_map haliases' (hrun'.rendered (Compiler.extendedBy_naming c') (Nat.le_add_left _ _))

/-- Two types that contain each other, registered in both orders; the definitions change places. -/
theorem ofRegistry_perm_left_right :
    let slots : SlotTable :=
      [("left", [.plain "right" (.named "x::Right" (.deferred "right"))]),
       ("right", [.plain "left" (.named "x::Left" (.deferred "left"))])]
    let left : Descriptor := .named "x::Left" (.deferred "left")
    let right : Descriptor := .named "x::Right" (.deferred "right")
    let lefts : RouteIdentity := ⟨"pairs", "lefts", by decide, by decide⟩
    let rights : RouteIdentity := ⟨"pairs", "rights", by decide, by decide⟩
    let entry := fun identity type =>
      (identity.key, (Registry.empty .root slots).record identity ⟨type, type⟩)
    let registry : Registry := ⟨.root, slots, [entry lefts left, entry rights right]⟩
    let handlers := [entry rights right, entry lefts left]
    registry.handlers.Perm handlers ∧
    Descriptor.Consistent slots registry.types ∧ Descriptor.Distinct slots registry.types ∧
    Descriptor.Unambiguous slots registry.types ∧
    ∃ client client', ofRegistry registry = .ok client ∧ ofRegistry { registry with handlers } = .ok client' ∧
      client.definitions.map (·.name) = ["x_Right", "x_Left"] ∧
      client'.definitions.map (·.name) = ["x_Left", "x_Right"] ∧
      client.definitions.Perm client'.definitions := by
  intro slots left right lefts rights entry registry handlers
  have hnodes (d : Descriptor) (hd : Descriptor.NamedFrom slots registry.types d) : d = left ∨ d = right := by
    refine hd.2.mem_of_closed (S := fun d => d = left ∨ d = right) (fun root hroot => ?_)
      (fun d hd part hpart => ?_)
    · have hroot : root ∈ [left, left, right, right] := hroot
      simpa using hroot
    · rcases hd with rfl | rfl
      · exact .inr (List.mem_singleton.mp hpart)
      · exact .inl (List.mem_singleton.mp hpart)
  have hkeys : left.key ≠ right.key := by
    decide +kernel
  have hnames : left.typeName ≠ right.typeName := by
    decide +kernel
  have hsame (d e : Descriptor) (hd : Descriptor.NamedFrom slots registry.types d)
      (he : Descriptor.NamedFrom slots registry.types e) (h : d.key = e.key ∨ d.typeName = e.typeName) :
      d = e := by
    rcases hnodes d hd with rfl | rfl <;> rcases hnodes e he with rfl | rfl
    · rfl
    · exact absurd h (not_or.mpr ⟨hkeys, hnames⟩)
    · exact absurd h (not_or.mpr ⟨hkeys.symm, hnames.symm⟩)
    · rfl
  have hperm : registry.handlers.Perm handlers := .swap ..
  have hconsistent : Descriptor.Consistent slots registry.types :=
    fun d e hd he hkey => congrArg (Descriptor.fields slots) (hsame d e hd he (.inl hkey))
  have hdistinct : Descriptor.Distinct slots registry.types :=
    fun d e hd he hname => congrArg Descriptor.key (hsame d e hd he (.inr hname))
  have hunambiguous : Descriptor.Unambiguous slots registry.types :=
    fun d e hd he hkey => congrArg Descriptor.typeName (hsame d e hd he (.inl hkey))
  have hshown : (ofRegistry registry).toOption.map (·.definitions.map (·.name)) =
      some ["x_Right", "x_Left"] := by
    decide +kernel
  have hshown' : (ofRegistry { registry with handlers }).toOption.map (·.definitions.map (·.name)) =
      some ["x_Left", "x_Right"] := by
    decide +kernel
  obtain ⟨client, hclient, hshown⟩ := exists_client hshown
  obtain ⟨client', hclient', hshown'⟩ := exists_client hshown'
  have hdefinitions := (ofRegistry_perm hperm hconsistent hdistinct hunambiguous hclient hclient').1
  exact ⟨hperm, hconsistent, hdistinct, hunambiguous, client, client', hclient, hclient', hshown, hshown',
    hdefinitions⟩

/-- Two paths that differ in where a colon stands have one key and two short names, and the first one that is
met gives the name. -/
theorem ofRegistry_order_colons :
    let a : Descriptor := .named "a:.b" (.listed [])
    let b : Descriptor := .named "a.:b" (.listed [])
    let first : RouteIdentity := ⟨"colons", "first", by decide, by decide⟩
    let second : RouteIdentity := ⟨"colons", "second", by decide, by decide⟩
    let entry := fun identity type =>
      (identity.key, (Registry.empty .root []).record identity ⟨type, type⟩)
    let registry : Registry := ⟨.root, [], [entry first a, entry second b]⟩
    let handlers := [entry second b, entry first a]
    registry.handlers.Perm handlers ∧
    Descriptor.Consistent [] registry.types ∧ Descriptor.Distinct [] registry.types ∧
    ∃ client client', ofRegistry registry = .ok client ∧ ofRegistry { registry with handlers } = .ok client' ∧
      client.definitions.map (·.name) = ["a:_b"] ∧ client'.definitions.map (·.name) = ["a_:b"] ∧
      ¬ client.definitions.Perm client'.definitions := by
  intro a b first second entry registry handlers
  have hnodes (d : Descriptor) (hd : Descriptor.NamedFrom [] registry.types d) : d = a ∨ d = b := by
    refine hd.2.mem_of_closed (S := fun d => d = a ∨ d = b) (fun root hroot => ?_)
      (fun d hd part hpart => ?_)
    · have hroot : root ∈ [a, a, b, b] := hroot
      simpa using hroot
    · rcases hd with rfl | rfl <;> exact absurd hpart List.not_mem_nil
  have hkey : a.key = b.key := by
    decide +kernel
  have hconsistent : Descriptor.Consistent [] registry.types := by
    intro d e hd he _
    rcases hnodes d hd with rfl | rfl <;> rcases hnodes e he with rfl | rfl <;> rfl
  have hdistinct : Descriptor.Distinct [] registry.types := by
    intro d e hd he _
    rcases hnodes d hd with rfl | rfl <;> rcases hnodes e he with rfl | rfl
    · rfl
    · exact hkey
    · exact hkey.symm
    · rfl
  have hshown : (ofRegistry registry).toOption.map (·.definitions.map (·.name)) = some ["a:_b"] := by
    decide +kernel
  have hshown' : (ofRegistry { registry with handlers }).toOption.map (·.definitions.map (·.name)) =
      some ["a_:b"] := by
    decide +kernel
  obtain ⟨client, hclient, hshown⟩ := exists_client hshown
  obtain ⟨client', hclient', hshown'⟩ := exists_client hshown'
  refine ⟨.swap .., hconsistent, hdistinct, client, client', hclient, hclient', hshown, hshown', ?_⟩
  intro hperm
  have hnames := hperm.map (·.name)
  rw [hshown, hshown'] at hnames
  exact absurd hnames (by decide)

end TypedRpc.Client
