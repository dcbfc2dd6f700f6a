import Mathlib.Data.List.Induction
import Mathlib.Data.Nat.Digits.Defs
import TypedRpc.Http.RequestId
import TypedRpc.Proofs.Http.Headers
import TypedRpc.Proofs.Text.Ascii

/-!
# The text of a request id

An id is written as 26 digits to the base 32 and read back from them, in either case and without the bits that do not
fit (`parse_eq_ok_iff`). The digits are plain characters, none of them a blank, so the text stays what it is as the
value of a header.
-/

namespace TypedRpc.Http

open TypedRpc.Text

namespace RequestId

/-! ## Digits -/

/-- The number that digits in either case write to the base 32, the highest first. -/
def valueOf (cs : List Char) : Nat :=
  Nat.ofDigits 32 (cs.reverse.map fun c => alphabet.idxOf c.toUpper)

theorem valueOf_snoc (cs : List Char) (c : Char) :
    valueOf (cs ++ [c]) = alphabet.idxOf c.toUpper + 32 * valueOf cs := by
  simp only [valueOf, List.reverse_append, List.reverse_singleton, List.singleton_append, List.map_cons,
    Nat.ofDigits_cons]

theorem digit_mem_alphabet : ∀ value < 32, digit value ∈ alphabet := by
  decide

/-- The alphabet is in uppercase, and each digit has its value as its place in it. -/
theorem idxOf_toUpper_digit : ∀ value < 32, alphabet.idxOf (digit value).toUpper = value := by
  decide

theorem toUpper_of_mem_alphabet {c : Char} (h : c ∈ alphabet) : c.toUpper = c := by
  have hall : alphabet.all (fun c => c.toUpper == c) = true := by decide
  exact beq_iff_eq.mp (List.all_eq_true.mp hall c h)

/-- Digits are plain characters. -/
theorem plain_of_mem_alphabet {c : Char} (h : c ∈ alphabet) :
    c.toNat < 128 ∧ c.utf8Size = 1 ∧ isBlank c = false := by
  have hall : alphabet.all (fun c => c.toNat < 128 && c.utf8Size == 1 && !isBlank c) = true := by decide
  simpa [and_assoc] using List.all_eq_true.mp hall c h

/-- Digits in either case are one byte each. -/
theorem utf8Size_of_toUpper_mem {c : Char} (h : c.toUpper ∈ alphabet) : c.utf8Size = 1 := by
  unfold Char.toUpper at h
  split at h
  next hlower =>
    -- lowercase letters end before the last character of one byte
    exact Char.utf8Size_eq_one_iff.mpr (UInt32.le_trans hlower.2 (by decide))
  next => exact (plain_of_mem_alphabet h).2.1

/-! ## Writing -/

@[simp] theorem length_digits (number count : Nat) : (digits number count).length = count := by
  induction count generalizing number with
  | zero => rfl
  | succ count ih => rw [digits, List.length_append, ih, List.length_singleton]

theorem mem_alphabet_of_mem_digits {number count : Nat} {c : Char} (h : c ∈ digits number count) : c ∈ alphabet := by
  induction count generalizing number with
  | zero => exact absurd h List.not_mem_nil
  | succ count ih =>
    rcases List.mem_append.mp h with h | h
    · exact ih h
    · rw [List.mem_singleton.mp h]
      exact digit_mem_alphabet _ (Nat.mod_lt _ (by decide))

/-- The digits of a number that has no more of them write the number. -/
theorem valueOf_digits {number count : Nat} (h : number < Nat.pow 32 count) :
    valueOf (digits number count) = number := by
  induction count generalizing number with
  | zero =>
    obtain rfl : number = 0 := Nat.lt_one_iff.mp h
    rfl
  | succ count ih =>
    have hdiv : number / 32 < Nat.pow 32 count :=
      Nat.div_lt_of_lt_mul (by rwa [Nat.mul_comm])
    rw [digits, valueOf_snoc, ih hdiv, idxOf_toUpper_digit _ (Nat.mod_lt _ (by decide)), Nat.mod_add_div]

/-! ## Reading -/

theorem readDigits_snoc (number : BitVec 128) (cs : List Char) (c : Char) :
    readDigits number (cs ++ [c]) =
      (readDigits number cs).bind fun read => (digitValue? c).map fun value => read * 32 + BitVec.ofNat 128 value := by
  induction cs generalizing number with
  | nil =>
    simp only [List.nil_append, readDigits]
    cases digitValue? c <;> rfl
  | cons a cs ih =>
    rw [List.cons_append, readDigits, readDigits]
    cases digitValue? a with
    | none => rfl
    | some value => exact ih _

/-- Digits in either case are read as the number that they write, without the bits that do not fit. -/
theorem readDigits_eq {cs : List Char} (h : ∀ c ∈ cs, c.toUpper ∈ alphabet) :
    readDigits 0 cs = some (BitVec.ofNat 128 (valueOf cs)) := by
  -- the last digit counts least, so the number of the others is shifted as a whole
  induction cs using List.reverseRecOn with
  | nil => rfl
  | append_singleton cs c ih =>
    have hcs : ∀ d ∈ cs, d.toUpper ∈ alphabet := fun d hd => h d (List.mem_append_left _ hd)
    have hc : c.toUpper ∈ alphabet := h c (List.mem_append_right _ List.mem_cons_self)
    have hsum : BitVec.ofNat 128 (valueOf cs) * 32 + BitVec.ofNat 128 (alphabet.idxOf c.toUpper) =
        BitVec.ofNat 128 (alphabet.idxOf c.toUpper + 32 * valueOf cs) := by
      rw [BitVec.ofNat_add, BitVec.ofNat_mul, BitVec.add_comm, BitVec.mul_comm]
      rfl
    rw [readDigits_snoc, ih hcs, Option.bind_some, digitValue?, if_pos hc, Option.map_some, hsum, valueOf_snoc]

/-- Nothing but digits is read. -/
theorem toUpper_mem_of_readDigits {number read : BitVec 128} {cs : List Char} (h : readDigits number cs = some read) :
    ∀ c ∈ cs, c.toUpper ∈ alphabet := by
  induction cs generalizing number with
  | nil => exact fun c hc => absurd hc List.not_mem_nil
  | cons a cs ih =>
    rw [readDigits, digitValue?] at h
    by_cases ha : a.toUpper ∈ alphabet
    · rw [if_pos ha] at h
      exact List.forall_mem_cons.mpr ⟨ha, ih h⟩
    · rw [if_neg ha] at h
      nomatch h

/-- A text is an id if it is 26 digits in either case. Those write a number of 130 bits, and the two highest bits of it
are lost. -/
theorem parse_eq_ok_iff {s : String} {id : RequestId} :
    parse s = .ok id ↔ s.toList.length = length ∧ (∀ c ∈ s.toList, c.toUpper ∈ alphabet) ∧
      id.number = BitVec.ofNat 128 (valueOf s.toList) := by
  constructor
  · intro h
    rw [parse] at h
    split at h
    next hsize =>
      cases hread : readDigits 0 s.toList with
      | none =>
        rw [hread] at h
        nomatch h
      | some number =>
        rw [hread] at h
        have hdigits := toUpper_mem_of_readDigits hread
        rw [readDigits_eq hdigits] at hread
        obtain rfl := Option.some.inj hread
        obtain rfl := Except.ok.inj h
        rw [utf8ByteSize_of_forall fun c hc => utf8Size_of_toUpper_mem (hdigits c hc)] at hsize
        exact ⟨hsize, hdigits, rfl⟩
    next => nomatch h
  · rintro ⟨hlength, hdigits, hnumber⟩
    have hsize : s.utf8ByteSize = length := by
      rw [utf8ByteSize_of_forall fun c hc => utf8Size_of_toUpper_mem (hdigits c hc), hlength]
    rw [parse, if_pos hsize, readDigits_eq hdigits, ← hnumber]

/-! ## The text of an id -/

variable (id : RequestId)

@[simp] theorem toList_print : id.print.toList = digits id.number.toNat length :=
  String.toList_ofList

theorem mem_alphabet_of_mem_print {id : RequestId} {c : Char} (h : c ∈ id.print.toList) : c ∈ alphabet := by
  rw [toList_print] at h
  exact mem_alphabet_of_mem_digits h

/-- The digits are those of the number. -/
theorem valueOf_print : valueOf id.print.toList = id.number.toNat := by
  rw [toList_print]
  exact valueOf_digits (Nat.lt_trans id.number.isLt (by decide))

/-- The text of an id is read as the id. -/
theorem parse_print : parse id.print = .ok id := by
  refine parse_eq_ok_iff.mpr ⟨by simp, fun c hc => ?_, ?_⟩
  · have hmem := mem_alphabet_of_mem_print hc
    rwa [toUpper_of_mem_alphabet hmem]
  · rw [valueOf_print, BitVec.ofNat_toNat, BitVec.setWidth_eq]

/-- Nothing is trimmed off the text of an id. -/
theorem trim_print : trim id.print = id.print := by
  have hblank (cs : List Char) (hcs : cs ⊆ id.print.toList) : cs.dropWhile isBlank = cs := by
    cases cs with
    | nil => rfl
    | cons c cs =>
      have hmem := mem_alphabet_of_mem_print (hcs List.mem_cons_self)
      exact List.dropWhile_cons_of_neg (by simp [(plain_of_mem_alphabet hmem).2.2])
  rw [trim, trimBlanks, hblank _ (List.Subset.refl _), hblank _ (List.reverse_subset.mpr (List.Subset.refl _)),
    List.reverse_reverse, String.ofList_toList]

/-! ## Ids in headers -/

theorem ofHeaders_of_parse {headers : Headers} {value : String} (hvalue : headers.get? header = some value)
    (hparse : parse (trim value) = .ok id) (new : RequestId) : ofHeaders headers new = id := by
  rw [ofHeaders, ofHeaders?, hvalue, Option.bind_some, hparse]
  rfl

/-- An id that is sent back is the id of the request. -/
theorem ofHeaders_of_print {headers : Headers} (hvalue : headers.get? header = some id.print) (new : RequestId) :
    ofHeaders headers new = id :=
  ofHeaders_of_parse id hvalue (by rw [trim_print, parse_print]) new

end RequestId

end TypedRpc.Http
