import TypedRpc.Proofs.Client.Compiled
import TypedRpc.Proofs.Compiler.References

/-!
# Clients are closed

Main statement: a client defines each name that it refers to, once, and defines nothing that no handler needs.
-/

namespace TypedRpc

open TypedRpc.TypeScript

namespace Client

/-- The names that the type expressions of the handlers refer to. -/
def references (client : Client) : List String :=
  client.types.flatMap TypeExpr.references

/-- **Clients are closed.** Each name that a handler's type expression or a definition refers to has one
definition, and each definition is reached from the type expressions of the handlers by following references. -/
theorem ofRegistry_closed {registry : Registry} {client : Client} (h : ofRegistry registry = .ok client) :
    (∀ name, (name ∈ client.references ∨ ∃ definition ∈ client.definitions, name ∈ definition.references) →
      (client.definitions.map (·.name)).count name = 1) ∧
    ∀ definition ∈ client.definitions, ∃ root ∈ client.references,
      Relation.ReflTransGen (Refers client.definitions) root definition.name := by
  obtain ⟨c, hrun, hdefinitions, -⟩ := ofRegistry_ok h
  rw [hdefinitions]
  refine ⟨fun name hname => ?_, fun definition hd => ?_⟩
  · have hunique := (hrun.coherent .empty).unique
    exact List.count_eq_one_of_mem hunique (hrun.closed hname)
  · rcases hrun.definitions_reached .empty definition hd with hnone | hreached
    · exact absurd hnone List.not_mem_nil
    · exact hreached

/-- Two types that contain each other, of which the handler names one. -/
theorem ofRegistry_closed_left_right :
    let slots : SlotTable :=
      [("left", [.plain "right" (.named "x::Right" (.deferred "right"))]),
       ("right", [.plain "left" (.named "x::Left" (.deferred "left"))])]
    let left : Descriptor := .named "x::Left" (.deferred "left")
    let identity : RouteIdentity := ⟨"pairs", "list", by decide, by decide⟩
    let registry : Registry :=
      ⟨.root, slots, [(identity.key, ⟨identity, "/pairs.list", ⟨.inline (.listed []), .sequence left⟩, true⟩)]⟩
    ∃ client, ofRegistry registry = .ok client ∧ client.references = ["x_Left"] ∧
      client.definitions.map (·.name) = ["x_Right", "x_Left"] ∧
      (client.definitions.map (·.name)).count "x_Left" = 1 ∧
      ∀ definition ∈ client.definitions, ∃ root ∈ client.references,
        Relation.ReflTransGen (Refers client.definitions) root definition.name := by
  intro slots left identity registry
  have hshown : (ofRegistry registry).toOption.map (fun client =>
      (client.references, client.definitions.map (·.name))) = some (["x_Left"], ["x_Right", "x_Left"]) := by
    decide +kernel
  obtain ⟨client, hclient, hshown⟩ := exists_client hshown
  obtain ⟨hreferences, hnames⟩ := Prod.mk.inj hshown
  obtain ⟨hdefined, hreached⟩ := ofRegistry_closed hclient
  refine ⟨client, hclient, hreferences, hnames, hdefined "x_Left" (.inl ?_), hreached⟩
  simp [hreferences]

end Client

end TypedRpc
