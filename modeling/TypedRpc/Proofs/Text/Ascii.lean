import Mathlib.Data.List.Basic
import TypedRpc.Text.LetterCase

/-!
# ASCII texts

There are few ASCII characters, so what is said of all of them can be checked one by one. Making one of them uppercase
gives one ASCII character, and no digit from anything else. Two characters become the same lowercase letter only as its
two cases. A text has at least as many bytes as characters, and an ASCII text has no more.
-/

namespace TypedRpc.Text

/-- All characters of the text are ASCII characters. -/
def IsAscii (text : String) : Prop :=
  ∀ c ∈ text.toList, c.toNat < 0x80

instance (text : String) : Decidable (IsAscii text) :=
  List.decidableBAll _ text.toList

theorem isAscii_append {text text' : String} : IsAscii (text ++ text') ↔ IsAscii text ∧ IsAscii text' := by
  simp [IsAscii, or_imp, forall_and]

/-- What holds of the first 128 characters holds of every ASCII character. -/
theorem forall_ascii {P : Char → Prop} (h : ∀ n < 0x80, P (Char.ofNat n)) {c : Char} (hc : c.toNat < 0x80) : P c := by
  have hchar := h c.toNat hc
  rwa [Char.ofNat_toNat] at hchar

/-! ## Bytes -/

theorem utf8ByteSize_cons (c : Char) (cs : List Char) :
    (String.ofList (c :: cs)).utf8ByteSize = c.utf8Size + (String.ofList cs).utf8ByteSize := by
  rw [String.ofList_cons, String.utf8ByteSize_append, String.utf8ByteSize_singleton]

/-- A text has as many bytes as characters if each of them is one byte. -/
theorem utf8ByteSize_of_forall {s : String} (h : ∀ c ∈ s.toList, c.utf8Size = 1) :
    s.utf8ByteSize = s.toList.length := by
  suffices ∀ cs : List Char, (∀ c ∈ cs, c.utf8Size = 1) → (String.ofList cs).utf8ByteSize = cs.length by
    simpa using this s.toList h
  intro cs hcs
  induction cs with
  | nil => rfl
  | cons c cs ih =>
    obtain ⟨hc, hcs⟩ := List.forall_mem_cons.mp hcs
    rw [utf8ByteSize_cons, hc, ih hcs, List.length_cons, Nat.add_comm]

theorem length_le_utf8ByteSize (s : String) : s.length ≤ s.utf8ByteSize := by
  rw [← String.length_toList]
  suffices ∀ cs : List Char, cs.length ≤ (String.ofList cs).utf8ByteSize by
    simpa only [String.ofList_toList] using this s.toList
  intro cs
  induction cs with
  | nil => exact Nat.zero_le _
  | cons c cs ih =>
    have hpos : 0 < c.utf8Size := c.utf8Size_pos
    rw [utf8ByteSize_cons, List.length_cons]
    omega

theorem IsAscii.utf8ByteSize_eq {text : String} (h : IsAscii text) : text.utf8ByteSize = text.length := by
  rw [← String.length_toList]
  refine utf8ByteSize_of_forall fun c hc => Char.utf8Size_eq_one_iff.mpr ?_
  rw [UInt32.le_iff_toNat_le]
  exact Nat.le_of_lt_succ (h c hc)

/-! ## Letter case -/

theorem uppercase_of_ascii {c : Char} (h : c.toNat < 0x80) : uppercase c = [c.toUpper] := by
  rw [uppercase, if_pos h]

theorem isUpper_iff {c : Char} : c.isUpper = true ↔ 65 ≤ c.toNat ∧ c.toNat ≤ 90 := by
  have h : c.isUpper = true ↔ 'A'.val ≤ c.val ∧ c.val ≤ 'Z'.val := decide_eq_true_iff
  rw [h, UInt32.le_iff_toNat_le, UInt32.le_iff_toNat_le]
  exact Iff.rfl

theorem toNat_toLower (c : Char) : c.toLower.toNat = if c.isUpper then c.toNat + 32 else c.toNat := by
  by_cases h : c.val ≥ 'A'.val ∧ c.val ≤ 'Z'.val
  · have hupper : c.isUpper = true := decide_eq_true h
    have hmoved : c.toLower.val = c.val + 32 := congrArg Char.val (dif_pos h)
    have hbound : c.toNat ≤ 90 := (isUpper_iff.mp hupper).2
    rw [if_pos hupper, Char.toNat, hmoved, UInt32.toNat_add, Nat.mod_eq_of_lt]
    · rfl
    · exact Nat.lt_of_le_of_lt (Nat.add_le_add_right hbound 32) (by decide)
  · have hupper : c.isUpper = false := decide_eq_false h
    rw [hupper, if_neg Bool.false_ne_true, show c.toLower = c from dif_neg h]

/-- Characters have one lowercase form if they are one character or the two cases of an ASCII letter. -/
theorem toLower_eq_toLower_iff {c d : Char} :
    c.toLower = d.toLower ↔
      c = d ∨ (c.isUpper = true ∧ d.toNat = c.toNat + 32) ∨ (d.isUpper = true ∧ c.toNat = d.toNat + 32) := by
  simp only [← Char.toNat_inj, toNat_toLower, isUpper_iff]
  split <;> split <;> omega

theorem toUpper_of_ascii {c : Char} (h : c.toNat < 0x80) : c.toUpper.toNat < 0x80 ∧ c.toUpper.isDigit = c.isDigit := by
  refine forall_ascii (P := fun c => c.toUpper.toNat < 0x80 ∧ c.toUpper.isDigit = c.isDigit) ?_ h
  decide +kernel

end TypedRpc.Text
