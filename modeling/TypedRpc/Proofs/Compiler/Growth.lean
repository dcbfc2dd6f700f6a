import TypedRpc.Compiler.Compile
import TypedRpc.Proofs.Compiler.NameTable

/-!
# What a compilation does to the state

A compilation changes the state in a few small steps: it gives out a name, goes one level deeper, marks a key
and takes the mark away, adds a definition. `Law` lists them: what each step keeps, a whole compilation keeps, whether
it succeeds (`Law.compiles`) or not (`RunLaw.compile`).

The first law is that the state only grows and gets its marks back.
-/

namespace TypedRpc.Compiler

open TypedRpc.TypeScript

/-- A relation between the state before and the state after that each step of a compilation keeps. -/
structure Law (R : Compiler → Compiler → Prop) : Prop where
  refl (c : Compiler) : R c c
  trans {a b c : Compiler} : R a b → R b c → R a c
  assign (c : Compiler) (segments : List String) : R c (c.assignName segments).2
  inline {c c' : Compiler} : R { c with inlineDepth := c.inlineDepth + 1 } c' →
    R c { c' with inlineDepth := c'.inlineDepth - 1 }
  /-- The fields of a named composite could not be compiled. -/
  abandon {c c' : Compiler} {key : String} : R (c.enter key) c' → R c (c'.leave key)
  /-- The fields of a named composite have been compiled, and its definition is added. -/
  complete {c c' : Compiler} {key : String} {definition : Definition} :
    c.names.lookup key = some definition.name → R (c.enter key) c' →
      R c ((c'.leave key).define definition)

/-! ## Growth -/

/-- What was known is still known and in its place, and the marks are as they were. -/
structure Grows (c c' : Compiler) : Prop where
  names : c.names <+: c'.names
  owners : c.owners <+: c'.owners
  definitions : c.definitions <+: c'.definitions
  processing : c'.processing = c.processing
  inlineDepth : c'.inlineDepth = c.inlineDepth

namespace Grows

variable {a b c c' : Compiler}

theorem refl (c : Compiler) : Grows c c :=
  ⟨List.prefix_rfl, List.prefix_rfl, List.prefix_rfl, rfl, rfl⟩

theorem trans (h : Grows a b) (h' : Grows b c) : Grows a c where
  names := h.names.trans h'.names
  owners := h.owners.trans h'.owners
  definitions := h.definitions.trans h'.definitions
  processing := h'.processing.trans h.processing
  inlineDepth := h'.inlineDepth.trans h.inlineDepth

theorem assignName (c : Compiler) (segments : List String) : Grows c (c.assignName segments).2 := by
  rcases assignName_cases c segments with ⟨_, _, heq⟩ | ⟨_, _, _, _, heq⟩ <;> rw [heq]
  · exact refl c
  · exact ⟨List.prefix_append .., List.prefix_append .., List.prefix_rfl, rfl, rfl⟩

theorem of_assignName {segments : List String} {name : String}
    (h : c.assignName segments = (name, c')) : Grows c c' := by
  simpa [h] using assignName c segments

theorem leave {key : String} (h : Grows (c.enter key) c') : Grows c (c'.leave key) where
  names := h.names
  owners := h.owners
  definitions := h.definitions
  processing := by simp [Compiler.leave, h.processing, enter]
  inlineDepth := h.inlineDepth

theorem define (c : Compiler) (definition : Definition) : Grows c (c.define definition) := by
  unfold Compiler.define
  split
  · exact refl c
  · exact ⟨List.prefix_rfl, List.prefix_rfl, List.prefix_append .., rfl, rfl⟩

theorem complete {key : String} (h : Grows (c.enter key) c') (definition : Definition) :
    Grows c ((c'.leave key).define definition) :=
  h.leave.trans (define _ _)

theorem inline (h : Grows { c with inlineDepth := c.inlineDepth + 1 } c') :
    Grows c { c' with inlineDepth := c'.inlineDepth - 1 } where
  names := h.names
  owners := h.owners
  definitions := h.definitions
  processing := h.processing
  inlineDepth := by simp [h.inlineDepth]

theorem law : Law Grows where
  refl := refl
  trans := trans
  assign := assignName
  inline := inline
  abandon := leave
  complete := fun _ h => h.complete _

theorem lookup_names (h : Grows c c') {key name : String} (hname : c.names.lookup key = some name) :
    c'.names.lookup key = some name :=
  h.names.lookup_eq_some hname

end Grows

/-! ## Coherence -/

/-- The table of names stays coherent. -/
theorem Coherent.law : Law fun c c' => Grows c c' ∧ (c.Coherent → c'.Coherent) where
  refl c := ⟨.refl c, id⟩
  trans h h' := ⟨h.1.trans h'.1, h'.2 ∘ h.2⟩
  assign c segments := ⟨.assignName c segments, fun hc => hc.assignName segments⟩
  inline h := ⟨h.1.inline, fun hc => (h.2 (hc.withDepth _)).withDepth _⟩
  abandon h := ⟨h.1.leave, fun hc => (h.2 (hc.enter _)).leave _⟩
  complete := by
    intro c c' key definition hname ⟨hgrows, hcoherent⟩
    refine ⟨hgrows.complete _, fun hc => ?_⟩
    have hname' : (c'.leave key).names.lookup key = some definition.name := hgrows.leave.lookup_names hname
    exact ((hcoherent (hc.enter key)).leave key).define hname'

end TypedRpc.Compiler
