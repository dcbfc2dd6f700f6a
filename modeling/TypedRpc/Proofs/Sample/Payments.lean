import TypedRpc.Proofs.Text.Ascii
import TypedRpc.Sample.Payments

/-!
# What a receipt shows of a card

A receipt shows the last four bytes of the number of a card, which are four characters at most, if these bytes are
whole characters. If the first of them lies inside a character, the number cannot be cut there, and the receipt shows
all of it. Main statement: `charge_card`.
-/

namespace TypedRpc.Sample

open TypedRpc.Text

/-! ## Cutting a text at a byte -/

/-- The characters in front of the rest of a text take that many bytes. -/
def CutAt (offset : Nat) (cs rest : List Char) : Prop :=
  ∃ front, cs = front ++ rest ∧ (String.ofList front).utf8ByteSize = offset

theorem cutAt_zero {cs rest : List Char} : CutAt 0 cs rest ↔ cs = rest := by
  constructor
  · rintro ⟨front, rfl, hsize⟩
    -- only the empty text has no bytes
    have hfront : front = [] := by simpa using String.utf8ByteSize_eq_zero_iff.mp hsize
    rw [hfront, List.nil_append]
  · rintro rfl
    exact ⟨[], rfl, rfl⟩

theorem not_cutAt_nil {offset : Nat} {rest : List Char} : ¬ CutAt (offset + 1) [] rest := by
  rintro ⟨front, hnil, hsize⟩
  obtain ⟨rfl, rfl⟩ := List.nil_eq_append_iff.mp hnil
  nomatch hsize

theorem cutAt_cons {offset : Nat} {c : Char} {cs rest : List Char} :
    CutAt (offset + 1) (c :: cs) rest ↔ c.utf8Size ≤ offset + 1 ∧ CutAt (offset + 1 - c.utf8Size) cs rest := by
  constructor
  · rintro ⟨front, hcons, hsize⟩
    cases front with
    | nil => nomatch hsize
    | cons first front =>
      obtain ⟨rfl, rfl⟩ := List.cons.inj hcons
      rw [utf8ByteSize_cons] at hsize
      exact ⟨by omega, front, rfl, by omega⟩
  · rintro ⟨hle, front, rfl, hsize⟩
    refine ⟨c :: front, rfl, ?_⟩
    rw [utf8ByteSize_cons]
    omega

/-- A text is cut wherever a character ends. -/
theorem dropBytes?_eq_some_iff {offset : Nat} {cs rest : List Char} :
    dropBytes? offset cs = some rest ↔ CutAt offset cs rest := by
  fun_induction dropBytes? offset cs with
  | case1 cs => rw [cutAt_zero, Option.some.injEq]
  | case2 offset => exact iff_of_false nofun not_cutAt_nil
  | case3 offset c cs hlt =>
    refine iff_of_false nofun fun hcut => ?_
    exact Nat.not_le_of_lt hlt (cutAt_cons.mp hcut).1
  | case4 offset c cs hle ih => rw [ih, cutAt_cons, and_iff_right (Nat.le_of_not_lt hle)]

/-! ## The end of a number -/

/-- The last four bytes of the text are whole characters. -/
def EndsInFourBytes (text : String) : Prop :=
  ∃ front tail, text = front ++ tail ∧ tail.utf8ByteSize = 4

theorem lastFour_append {front tail : String} (h : tail.utf8ByteSize = 4) : lastFour (front ++ tail) = tail := by
  have hcut : dropBytes? ((front ++ tail).utf8ByteSize - 4) (front ++ tail).toList = some tail.toList := by
    rw [dropBytes?_eq_some_iff]
    exact ⟨front.toList, String.toList_append, by simp [String.utf8ByteSize_append, h]⟩
  rw [lastFour, hcut, Option.map_some, Option.getD_some, String.ofList_toList]

theorem lastFour_of_not_endsInFourBytes {number : String} (h : ¬ EndsInFourBytes number) : lastFour number = number := by
  rw [lastFour]
  cases hcut : dropBytes? (number.utf8ByteSize - 4) number.toList with
  | none => rfl
  | some rest =>
    obtain ⟨front, hnumber, hsize⟩ := dropBytes?_eq_some_iff.mp hcut
    have hnumber : number = String.ofList front ++ String.ofList rest := by
      rw [← String.ofList_append, ← hnumber, String.ofList_toList]
    have htotal : number.utf8ByteSize = (String.ofList front).utf8ByteSize + (String.ofList rest).utf8ByteSize := by
      rw [hnumber, String.utf8ByteSize_append]
    -- four bytes would have been whole characters, so there are fewer, and nothing is in front of them
    have hshort : (String.ofList rest).utf8ByteSize ≠ 4 := fun hfour => h ⟨_, _, hnumber, hfour⟩
    have hfront : String.ofList front = "" := String.utf8ByteSize_eq_zero_iff.mp (by omega)
    rw [hfront, String.empty_append] at hnumber
    exact hnumber.symm

/-- What is left of a number is its end. -/
theorem exists_append_lastFour (number : String) : ∃ front, number = front ++ lastFour number := by
  by_cases h : EndsInFourBytes number
  · obtain ⟨front, tail, rfl, htail⟩ := h
    exact ⟨front, by rw [lastFour_append htail]⟩
  · exact ⟨"", by rw [lastFour_of_not_endsInFourBytes h, String.empty_append]⟩

/-- The end of a number is its last four characters at most if the number is that short or ends in four bytes. -/
theorem length_lastFour_le_iff {number : String} :
    (lastFour number).length ≤ 4 ↔ number.length ≤ 4 ∨ EndsInFourBytes number := by
  by_cases h : EndsInFourBytes number
  · obtain ⟨front, tail, rfl, htail⟩ := id h
    have hlength : tail.length ≤ 4 := htail ▸ length_le_utf8ByteSize tail
    rw [lastFour_append htail]
    exact iff_of_true hlength (.inr h)
  · rw [lastFour_of_not_endsInFourBytes h, or_iff_left h]

/-- ASCII characters are one byte each, so the last four of them are the last four bytes. -/
theorem toList_lastFour_of_isAscii {number : String} (h : IsAscii number) :
    (lastFour number).toList = number.toList.drop (number.length - 4) := by
  by_cases hends : EndsInFourBytes number
  · obtain ⟨front, tail, rfl, htail⟩ := hends
    have hlength : tail.length = 4 := by rw [← (isAscii_append.mp h).2.utf8ByteSize_eq, htail]
    rw [lastFour_append htail, String.length_append, hlength, Nat.add_sub_cancel, String.toList_append,
      ← String.length_toList, List.drop_left]
  · have hshort : number.length ≤ 4 := by
      by_contra hlong
      have hsplit : number = String.ofList (number.toList.take (number.length - 4)) ++
          String.ofList (number.toList.drop (number.length - 4)) := by
        rw [← String.ofList_append, List.take_append_drop, String.ofList_toList]
      have hascii := (isAscii_append.mp (hsplit ▸ h)).2
      refine hends ⟨_, _, hsplit, ?_⟩
      rw [hascii.utf8ByteSize_eq, String.length_ofList, List.length_drop, String.length_toList]
      omega
    rw [lastFour_of_not_endsInFourBytes hends, Nat.sub_eq_zero_of_le hshort, List.drop_zero]

/-! ## Receipts -/

/-- **A receipt shows the end of the number of a card, or all of it.** A charge of a card alone succeeds, and its receipt
shows an end of the number. It is four characters long at most if and only if the number is no longer than that or its
last four bytes are whole characters; these bytes are what is shown then, and otherwise all of the number is. Of a
number in ASCII the last four characters are shown. -/
theorem charge_card (context : Context) (amountCents : Nat) (card : Card) :
    ∃ front tail, card.number = front ++ tail ∧
      charge context ⟨amountCents, ⟨some card, none⟩⟩ = .value ⟨amountCents, "card ending " ++ tail⟩ ∧
      (tail.length ≤ 4 ↔ card.number.length ≤ 4 ∨ EndsInFourBytes card.number) ∧
      (EndsInFourBytes card.number → tail.utf8ByteSize = 4) ∧
      (¬ EndsInFourBytes card.number → tail = card.number) ∧
      (IsAscii card.number → tail.toList = card.number.toList.drop (card.number.length - 4)) := by
  obtain ⟨front, hnumber⟩ := exists_append_lastFour card.number
  refine ⟨front, lastFour card.number, hnumber, rfl, length_lastFour_le_iff, ?_, lastFour_of_not_endsInFourBytes,
    toList_lastFour_of_isAscii⟩
  rintro ⟨front, tail, hends, htail⟩
  rw [hends, lastFour_append htail, htail]

/-- Each of these digits is three bytes, so the last four bytes begin inside of one, and the receipt shows all sixteen
digits. -/
theorem charge_wide_digits :
    ¬ ∀ (context : Context) (input : Charge) (card : Card),
      input.method.card = some card → input.method.iban = none →
        ∃ tail, charge context input = .value ⟨input.amountCents, "card ending " ++ tail⟩ ∧
          tail.toList <:+ card.number.toList ∧ tail.length ≤ 4 := by
  intro hfour
  let card : Card := ⟨"４２４２４２４２４２４２４２４２", "123"⟩
  let context : Context := ⟨default, ⟨"payments", "charge", by decide, by decide⟩, "/payments.charge", []⟩
  obtain ⟨tail, hcharge, -, hlength⟩ := hfour context ⟨100, ⟨some card, none⟩⟩ card rfl rfl
  have hshown : lastFour card.number = card.number := by decide +kernel
  have htail : "card ending " ++ card.number = "card ending " ++ tail := by
    injection hcharge with hreceipt
    rw [← hshown]
    exact congrArg Receipt.via hreceipt
  have hnumber : card.number.length = 16 := by decide +kernel
  rw [← (String.append_right_inj "card ending ").mp htail, hnumber] at hlength
  omega

end TypedRpc.Sample
