import Mathlib.Data.List.Basic
import TypedRpc.Proofs.Descriptor.Graph

/-!
# Trails

A descent leads from a descriptor to one of its parts, to a part of that, and so on; a trail is a descent that meets no
key twice. How many composites lie on it that are written out is its nesting. A composite that is written out inside
itself has descents of every nesting.
-/

namespace TypedRpc

open TypedRpc.TypeScript

namespace Descriptor

/-- The descriptors lead from whole to part. -/
def Descent (table : SlotTable) (ds : List Descriptor) : Prop :=
  ds.IsChain fun whole part => part ∈ whole.parts table

/-- What lies on a descent is reached from its first descriptor. -/
theorem Descent.reachedFrom {table : SlotTable} {d : Descriptor} {rest : List Descriptor}
    (h : Descent table (d :: rest)) : ∀ e ∈ d :: rest, ReachedFrom table [d] e := by
  induction rest generalizing d with
  | nil => exact reachedFrom_self
  | cons part rest ih =>
    obtain ⟨hpart, hnext⟩ := List.isChain_cons_cons.mp h
    have hself : ReachedFrom table [d] d := reachedFrom_self d List.mem_cons_self
    refine List.forall_mem_cons.mpr ⟨hself, fun e he => ?_⟩
    exact (ih hnext e he).of_reached (List.forall_mem_singleton.mpr (hself.part part hpart))

/-- The descriptors lead from whole to part, and none of the composites that are defined by name has a key among
the given ones or the key of another one. -/
inductive Trail (table : SlotTable) : List String → List Descriptor → Prop where
  | last {met : List String} {d : Descriptor} (hkey : d.path ≠ [] → d.key ∉ met) : Trail table met [d]
  | pass {met : List String} {d part : Descriptor} {rest : List Descriptor} (hpath : d.path = [])
      (hpart : part ∈ d.parts table) (next : Trail table met (part :: rest)) : Trail table met (d :: part :: rest)
  | enter {met : List String} {d part : Descriptor} {rest : List Descriptor} (hpath : d.path ≠ [])
      (hkey : d.key ∉ met) (hpart : part ∈ d.parts table) (next : Trail table (d.key :: met) (part :: rest)) :
      Trail table met (d :: part :: rest)

theorem Trail.descent {table : SlotTable} {met : List String} {ds : List Descriptor} (h : Trail table met ds) :
    Descent table ds := by
  induction h with
  | last => exact .singleton _
  | pass _ hpart _ ih => exact .cons_cons hpart ih
  | enter _ _ hpart _ ih => exact .cons_cons hpart ih

/-- What lies on a trail is reached from its first descriptor. -/
theorem Trail.reachedFrom {table : SlotTable} {met : List String} {d : Descriptor} {rest : List Descriptor}
    (h : Trail table met (d :: rest)) : ∀ e ∈ d :: rest, ReachedFrom table [d] e :=
  h.descent.reachedFrom

/-- How many of the descriptors are composites that are written out. -/
def nesting (ds : List Descriptor) : Nat :=
  ds.countP fun d => d.isComposite && d.path.isEmpty

section

variable {d : Descriptor} {ds : List Descriptor}

theorem nesting_cons_of_composite (hcomposite : d.isComposite = true) (hpath : d.path = []) :
    nesting (d :: ds) = nesting ds + 1 :=
  List.countP_cons_of_pos (by simp [hcomposite, hpath])

theorem nesting_cons_of_not_composite (h : d.isComposite = false) : nesting (d :: ds) = nesting ds :=
  List.countP_cons_of_neg (by simp [h])

theorem nesting_cons_of_path (hpath : d.path ≠ []) : nesting (d :: ds) = nesting ds :=
  List.countP_cons_of_neg (by simp [hpath])

theorem nesting_le_cons (d : Descriptor) (ds : List Descriptor) : nesting ds ≤ nesting (d :: ds) :=
  (List.sublist_cons_self d ds).countP_le

end

/-! ## Cycles -/

section

variable {table : SlotTable} {d e : Descriptor} {nested : Nat}

/-- Descents from what is reached can be begun further up. -/
theorem exists_descent_of_reaches (hreaches : d.Reaches table e)
    (h : ∃ rest, Descent table (e :: rest) ∧ nested ≤ nesting (e :: rest)) :
    ∃ rest, Descent table (d :: rest) ∧ nested ≤ nesting (d :: rest) := by
  induction hreaches using Relation.ReflTransGen.head_induction_on with
  | refl => exact h
  | @head whole part hpart _ ih =>
    obtain ⟨rest, hdescent, hnested⟩ := ih
    exact ⟨part :: rest, .cons_cons hpart hdescent, Nat.le_trans hnested (nesting_le_cons whole _)⟩

/-- From a composite that is written out inside itself there is a descent of each nesting. -/
theorem exists_descent_of_cycle (hcomposite : e.isComposite = true) (hpath : e.path = [])
    (hcycle : ReachedFrom table (e.parts table) e) (nested : Nat) :
    ∃ rest, Descent table (e :: rest) ∧ nested ≤ nesting (e :: rest) := by
  induction nested with
  | zero => exact ⟨[], .singleton e, Nat.zero_le _⟩
  | succ nested ih =>
    obtain ⟨part, hpart, hreaches⟩ := hcycle
    obtain ⟨rest, hdescent, hnested⟩ := exists_descent_of_reaches hreaches ih
    refine ⟨part :: rest, .cons_cons hpart hdescent, ?_⟩
    rw [nesting_cons_of_composite hcomposite hpath]
    exact Nat.succ_le_succ hnested

end

end Descriptor

end TypedRpc
