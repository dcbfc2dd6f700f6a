/-!
# Computations that may fail

What has to be so for a computation of several parts to succeed.
-/

namespace Except

variable {ε ε' α β : Type}

theorem bind_eq_ok_iff {first : Except ε α} {next : α → Except ε β} {b : β} :
    first >>= next = .ok b ↔ ∃ a, first = .ok a ∧ next a = .ok b := by
  cases first <;> simp [bind, Except.bind]

theorem pure_eq_ok_iff {a b : α} : (pure a : Except ε α) = .ok b ↔ b = a := by
  simp [pure, Except.pure, eq_comm]

/-- A check in front of a result. -/
theorem check_eq_ok_iff {check : Except ε Unit} {a b : α} :
    (do check; pure a) = .ok b ↔ check = .ok () ∧ b = a := by
  cases check <;> simp [bind, Except.bind, pure, Except.pure, eq_comm]

theorem ite_eq_ok_iff {p : Prop} [Decidable p] {e : ε} {a b : α} :
    (if p then Except.ok a else .error e) = .ok b ↔ p ∧ b = a := by
  by_cases h : p <;> simp [h, eq_comm]

/-- A computation that ends at once in one case. -/
theorem unless_eq_ok_iff {p : Prop} [Decidable p] {e : ε} {rest : Except ε α} {a : α} :
    (do
      if p then throw e
      rest) = .ok a ↔ ¬ p ∧ rest = .ok a := by
  by_cases h : p <;> simp [h, bind, Except.bind, throw, throwThe, MonadExceptOf.throw]

theorem mapError_eq_ok_iff {f : ε → ε'} {outcome : Except ε α} {a : α} :
    outcome.mapError f = .ok a ↔ outcome = .ok a := by
  cases outcome with
  | error e => exact ⟨nofun, nofun⟩
  | ok _ => exact ⟨fun h => congrArg ok (ok.inj h), fun h => congrArg ok (ok.inj h)⟩

theorem toOption_eq_some_iff {outcome : Except ε α} {a : α} : outcome.toOption = some a ↔ outcome = .ok a := by
  cases outcome <;> simp [Except.toOption]

theorem mapError_ok {f : ε → ε'} {a : α} : (ok a : Except ε α).mapError f = ok a :=
  rfl

end Except
