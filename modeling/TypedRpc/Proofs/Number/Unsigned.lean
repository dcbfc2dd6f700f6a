import Mathlib.Data.List.Basic
import Mathlib.Data.List.TakeWhile
import TypedRpc.Number.Unsigned
import TypedRpc.Text.Blank

/-!
# Decimal numerals

Which texts are read as numbers, and which of them with blanks around them.
-/

namespace TypedRpc.Unsigned

open TypedRpc.Text

/-- The number that decimal digits make on top of another one. -/
def onTopOf (number : Nat) (digits : List Char) : Nat :=
  digits.foldl (fun number c => number * 10 + (c.toNat - '0'.toNat)) number

/-- The text writes the number, which has 64 bits, in decimal digits, possibly with zeros and a plus sign in front. -/
structure Writes (number : Nat) (text : List Char) : Prop where
  exists_digits : ∃ digits, (text = digits ∨ text = '+' :: digits) ∧ digits ≠ [] ∧
    (∀ c ∈ digits, c.isDigit = true) ∧ number = onTopOf 0 digits
  lt_limit : number < limit

theorem toNat_of_isDigit {c : Char} (h : c.isDigit = true) : 48 ≤ c.toNat ∧ c.toNat ≤ 57 := by
  simp only [Char.isDigit, Bool.and_eq_true, decide_eq_true_eq, UInt32.le_iff_toNat_le, ge_iff_le] at h
  exact h

namespace Writes

variable {number : Nat} {text : List Char}

theorem ne_nil (h : Writes number text) : text ≠ [] := by
  obtain ⟨digits, rfl | rfl, hne, -⟩ := h.exists_digits
  · exact hne
  · simp

theorem not_blank (h : Writes number text) : ∀ c ∈ text, isBlank c = false := by
  have hdigit : ∀ c : Char, c.isDigit = true → isBlank c = false := by
    intro c hc
    have hrange := toNat_of_isDigit hc
    simp [isBlank]
    omega
  obtain ⟨digits, rfl | rfl, -, hdigits, -⟩ := h.exists_digits
  · intro c hc
    exact hdigit c (hdigits c hc)
  · intro c hc
    rcases List.mem_cons.mp hc with rfl | hc
    · decide
    · exact hdigit c (hdigits c hc)

end Writes

/-! ## Digits -/

/-- What is no digit stands for ten and more if it stands for anything. -/
theorem le_of_digitValue? {c : Char} {value : Nat} (hc : c.isDigit = false) (h : digitValue? c = some value) :
    10 ≤ value := by
  simp only [digitValue?, hc, Bool.false_eq_true, if_false] at h
  split at h
  · obtain rfl := Option.some.inj h
    omega
  · cases h

theorem readDigits_eq_some_iff {number result : Nat} {cs : List Char} :
    readDigits 10 number cs = some result ↔ (∀ c ∈ cs, c.isDigit = true) ∧ result = onTopOf number cs := by
  induction cs generalizing number with
  | nil =>
    rw [readDigits, Option.some.injEq, eq_comm]
    simp [onTopOf]
  | cons c rest ih =>
    rw [readDigits, List.forall_mem_cons]
    by_cases hc : c.isDigit = true
    · have hvalue : digitValue? c = some (c.toNat - '0'.toNat) := by
        rw [digitValue?, if_pos hc]
      have hlt : c.toNat - '0'.toNat < 10 := by
        have hrange := toNat_of_isDigit hc
        rw [show '0'.toNat = 48 from rfl]
        omega
      simp only [hvalue, hlt, if_true, ih, hc, true_and]
      rfl
    · have hc : c.isDigit = false := by simpa using hc
      cases hvalue : digitValue? c with
      | none => simp [hc]
      | some value =>
        have hlarge : ¬ value < 10 := by
          have := le_of_digitValue? hc hvalue
          omega
        simp [hc, hlarge]

theorem ofDigits?_eq_some_iff {number : Nat} {cs : List Char} :
    ofDigits? 10 cs = some number ↔
      cs ≠ [] ∧ (∀ c ∈ cs, c.isDigit = true) ∧ number = onTopOf 0 cs ∧ number < limit := by
  rw [ofDigits?]
  by_cases hcs : cs = []
  · simp [hcs]
  · rw [if_neg (by simpa using hcs), Option.filter_eq_some_iff, readDigits_eq_some_iff]
    simp [hcs, and_assoc]

theorem dropPlus_of_isDigit {cs : List Char} (h : ∀ c ∈ cs, c.isDigit = true) : dropPlus cs = cs := by
  unfold dropPlus
  split
  · exact absurd (h '+' List.mem_cons_self) (by decide)
  · rfl

theorem eq_or_of_dropPlus {cs digits : List Char} (h : dropPlus cs = digits) : cs = digits ∨ cs = '+' :: digits := by
  unfold dropPlus at h
  split at h
  · exact .inr (by rw [h])
  · exact .inl h

theorem parse?_eq_some_iff {s : String} {number : Nat} : parse? s = some number ↔ Writes number s.toList := by
  rw [parse?, ofDigits?_eq_some_iff]
  constructor
  · rintro ⟨hne, hdigits, hnumber, hlt⟩
    exact ⟨⟨_, eq_or_of_dropPlus rfl, hne, hdigits, hnumber⟩, hlt⟩
  · rintro ⟨⟨digits, htext, hne, hdigits, hnumber⟩, hlt⟩
    have hdrop : dropPlus s.toList = digits := by
      rcases htext with htext | htext
      · rw [htext, dropPlus_of_isDigit hdigits]
      · rw [htext, dropPlus]
    rw [hdrop]
    exact ⟨hne, hdigits, hnumber, hlt⟩

end TypedRpc.Unsigned

namespace TypedRpc.Text

/-! ## Blanks around a text -/

theorem dropWhile_eq_of_blank {before rest : List Char} (hbefore : ∀ c ∈ before, isBlank c = true)
    (hrest : ∀ c, rest.head? = some c → isBlank c = false) : (before ++ rest).dropWhile isBlank = rest := by
  rw [List.dropWhile_append_of_pos hbefore]
  cases rest with
  | nil => rfl
  | cons c rest => exact List.dropWhile_cons_of_neg (by simp [hrest c rfl])

/-- A text between blanks that holds none itself is what is left when the blanks are trimmed off. -/
theorem trimBlanks_eq_iff {cs inner : List Char} (hne : inner ≠ []) (hinner : ∀ c ∈ inner, isBlank c = false) :
    trimBlanks cs = inner ↔ ∃ before after, cs = before ++ inner ++ after ∧
      (∀ c ∈ before, isBlank c = true) ∧ ∀ c ∈ after, isBlank c = true := by
  constructor
  · intro h
    refine ⟨cs.takeWhile isBlank, ((cs.dropWhile isBlank).reverse.takeWhile isBlank).reverse, ?_, ?_, ?_⟩
    · rw [← h, trimBlanks, List.append_assoc, ← List.reverse_append, List.takeWhile_append_dropWhile,
        List.reverse_reverse, List.takeWhile_append_dropWhile]
    · intro c hc
      exact List.mem_takeWhile_imp hc
    · intro c hc
      exact List.mem_takeWhile_imp (List.mem_reverse.mp hc)
  · rintro ⟨before, after, rfl, hbefore, hafter⟩
    have hhead : ∀ c, (inner ++ after).head? = some c → isBlank c = false := by
      intro c hc
      rw [List.head?_append_of_ne_nil _ hne] at hc
      exact hinner c (List.mem_of_head? hc)
    have hlast : ∀ c, inner.reverse.head? = some c → isBlank c = false := by
      intro c hc
      exact hinner c (List.mem_reverse.mp (List.mem_of_head? hc))
    rw [trimBlanks, List.append_assoc, dropWhile_eq_of_blank hbefore hhead, List.reverse_append,
      dropWhile_eq_of_blank (by simpa using hafter) hlast, List.reverse_reverse]

end TypedRpc.Text
