import TypedRpc.Client.Basic
import TypedRpc.Proofs.Compiler.Derivation

/-!
# The run behind a client

The types of all handlers are compiled in one run, so whatever holds of runs holds of clients.
-/

namespace TypedRpc

open TypedRpc.TypeScript

/-- The types of a handler, in the order in which they are compiled. -/
def Registration.types (registration : Registration) : List Descriptor :=
  [registration.signature.input, registration.signature.output]

/-- The types of all handlers, in the order in which they are compiled. -/
def Registry.types (registry : Registry) : List Descriptor :=
  registry.registrations.flatMap Registration.types

namespace Client

/-- The type expressions of a handler. -/
def Alias.types (entry : Alias) : List TypeExpr :=
  [entry.input, entry.output]

/-- The type expressions of all handlers. -/
def types (client : Client) : List TypeExpr :=
  client.aliases.flatMap Alias.types

theorem compileSignature_ok {slots : SlotTable} {signature : Signature} {c c' : Compiler}
    {compiled : Registry.CompiledSignature}
    (h : Registry.compileSignature slots signature c = (.ok compiled, c')) :
    c.Compiles slots [signature.input, signature.output] [compiled.input, compiled.output] c' := by
  unfold Registry.compileSignature at h
  split at h
  · cases h
  · rename_i input c₁ hinput
    split at h
    · cases h
    · rename_i output c₂ houtput
      cases h
      exact (Compiler.compile_ok hinput).append (Compiler.compile_ok houtput)

/-- The aliases of the handlers come from one run over all their types. -/
theorem compileAll_ok {slots : SlotTable} {registrations : List Registration} {c c' : Compiler}
    {aliases : List Alias} (h : compileAll slots registrations c = (.ok aliases, c')) :
    c.Compiles slots (registrations.flatMap Registration.types) (aliases.flatMap Alias.types) c' ∧
    List.Forall₂ (fun registration entry => entry = aliasOf registration ⟨entry.input, entry.output⟩)
      registrations aliases := by
  induction registrations generalizing c aliases with
  | nil =>
    cases h
    exact ⟨.nil, .nil⟩
  | cons registration rest ih =>
    rw [compileAll] at h
    split at h
    · cases h
    · rename_i compiled c₁ hsignature
      generalize hrest : compileAll slots rest c₁ = outcome at h
      obtain ⟨_ | aliases, c₂⟩ := outcome
      · cases h
      · cases h
        obtain ⟨hrun, haliases⟩ := ih hrest
        exact ⟨(compileSignature_ok hsignature).append hrun, .cons rfl haliases⟩

/-- A client comes from one run over the types of all handlers. -/
theorem ofRegistry_ok {registry : Registry} {client : Client} (h : ofRegistry registry = .ok client) :
    ∃ c, Compiler.empty.Compiles registry.slots registry.types client.types c ∧
      client.definitions = c.definitions ∧
      List.Forall₂ (fun registration entry => entry = aliasOf registration ⟨entry.input, entry.output⟩)
        registry.registrations client.aliases := by
  unfold ofRegistry at h
  split at h
  · cases h
  · rename_i aliases c hrun
    cases h
    obtain ⟨hcompiles, haliases⟩ := compileAll_ok hrun
    exact ⟨c, hcompiles, rfl, haliases⟩

/-- What is computed of a client shows that there is one. -/
theorem exists_client {α : Type} {registry : Registry} {f : Client → α} {shown : α}
    (h : (ofRegistry registry).toOption.map f = some shown) :
    ∃ client, ofRegistry registry = .ok client ∧ f client = shown := by
  obtain ⟨client, hclient, hshown⟩ := Option.map_eq_some_iff.mp h
  cases hrun : ofRegistry registry with
  | error e => simp [hrun, Except.toOption] at hclient
  | ok other =>
    simp only [hrun, Except.toOption, Option.some.injEq] at hclient
    exact ⟨other, rfl, hclient ▸ hshown⟩

end Client

end TypedRpc
