/-!
# Keyed lists

Look-ups in lists of keys and values, entry by entry.
-/

namespace TypedRpc

variable {α β γ : Type} [BEq α]

theorem lookup_cons_ite [LawfulBEq α] [DecidableEq α] (entry : α × β) (rest : List (α × β)) (key : α) :
    (entry :: rest).lookup key = if key = entry.1 then some entry.2 else rest.lookup key := by
  by_cases h : key = entry.1
  · rw [if_pos h, List.lookup_cons, h, beq_self_eq_true]
  · rw [if_neg h, List.lookup_cons, beq_false_of_ne h]

/-- A look-up finds the image of what it finds before the values are mapped. -/
theorem lookup_map_values (f : β → γ) (entries : List (α × β)) (key : α) :
    (entries.map fun entry => (entry.1, f entry.2)).lookup key = (entries.lookup key).map f := by
  induction entries with
  | nil => rfl
  | cons entry rest ih =>
    rw [List.map_cons, List.lookup_cons, List.lookup_cons, ih]
    cases key == entry.1 <;> rfl

end TypedRpc
