import TypedRpc.Text.Utf8

/-!
# Decoding what was encoded

The bytes of a text are decoded to the same text. A character is one byte, or a first byte and one to three
further ones; which second bytes a first byte admits is what excludes all other encodings.
-/

namespace TypedRpc.Text.Utf8

/-! ## First bytes -/

theorem lead_two {n : Nat} (hlow : 0xC2 ≤ n) (hhigh : n < 0xE0) :
    lead n = .sequence (n - 0xC0) 1 0x80 0xBF := by
  unfold lead
  rw [if_neg (by omega), if_neg (by omega), if_pos hhigh]

/-- A first byte of three admits the second bytes that make neither overlong forms nor surrogates. -/
theorem lead_three (n second : Nat) (hlow : 0xE0 ≤ n) (hhigh : n < 0xF0) (hsecond : 0x80 ≤ second)
    (hsecond' : second ≤ 0xBF) (hoverlong : n = 0xE0 → 0xA0 ≤ second) (hsurrogate : n = 0xED → second ≤ 0x9F) :
    ∃ low high, lead n = .sequence (n - 0xE0) 2 low high ∧ low ≤ second ∧ second ≤ high := by
  unfold lead
  rw [if_neg (by omega), if_neg (by omega), if_neg (by omega)]
  split
  · rename_i heq
    exact ⟨_, _, by rw [heq], hoverlong heq, hsecond'⟩
  · split
    · rename_i heq
      exact ⟨_, _, by rw [heq], hsecond, hsurrogate heq⟩
    · exact ⟨_, _, rfl, hsecond, hsecond'⟩

/-- A first byte of four admits the second bytes that make code points of this size. -/
theorem lead_four (n second : Nat) (hlow : 0xF0 ≤ n) (hhigh : n ≤ 0xF4) (hsecond : 0x80 ≤ second)
    (hsecond' : second ≤ 0xBF) (hoverlong : n = 0xF0 → 0x90 ≤ second) (hlast : n = 0xF4 → second ≤ 0x8F) :
    ∃ low high, lead n = .sequence (n - 0xF0) 3 low high ∧ low ≤ second ∧ second ≤ high := by
  unfold lead
  rw [if_neg (by omega), if_neg (by omega), if_neg (by omega), if_neg (by omega), if_neg (by omega),
    if_neg (by omega)]
  split
  · rename_i heq
    exact ⟨_, _, by rw [heq], hoverlong heq, hsecond'⟩
  · split
    · exact ⟨_, _, rfl, hsecond, hsecond'⟩
    · have heq : n = 0xF4 := by omega
      rw [if_pos heq]
      exact ⟨_, _, by rw [heq], hsecond, hlast heq⟩

/-! ## Further bytes -/

/-- A byte that comes first in a sequence, after which more are missing. -/
theorem decodeFrom_lead {b bits missing low high : Nat} {rest : List UInt8} (hb : b < 256)
    (hlead : lead b = .sequence bits missing low high) :
    decodeFrom none (UInt8.ofNat b :: rest) =
      decodeFrom (some ⟨UInt8.ofNat b :: rest, bits, missing, low, high⟩) rest := by
  have htoNat : (UInt8.ofNat b).toNat = b := UInt8.toNat_ofNat_of_lt' hb
  rw [decodeFrom, htoNat, hlead]

/-- A byte after which more are missing. -/
theorem decodeFrom_middle {start : List UInt8} {bits missing low high b : Nat} {rest : List UInt8}
    (hb : b < 256) (hlow : low ≤ b) (hhigh : b ≤ high) :
    decodeFrom (some ⟨start, bits, missing + 2, low, high⟩) (UInt8.ofNat b :: rest) =
      decodeFrom (some ⟨start, bits * 64 + (b - 0x80), missing + 1, 0x80, 0xBF⟩) rest := by
  have htoNat : (UInt8.ofNat b).toNat = b := UInt8.toNat_ofNat_of_lt' hb
  rw [decodeFrom]
  simp only [htoNat, hlow, hhigh, and_self, if_true]
  rw [if_neg (by omega)]
  rfl

/-- The last byte of a sequence. -/
theorem decodeFrom_last {start : List UInt8} {bits low high b : Nat} {rest : List UInt8}
    (hb : b < 256) (hlow : low ≤ b) (hhigh : b ≤ high) :
    decodeFrom (some ⟨start, bits, 1, low, high⟩) (UInt8.ofNat b :: rest) =
      (decodeFrom none rest).map (Char.ofNat (bits * 64 + (b - 0x80)) :: ·) := by
  have htoNat : (UInt8.ofNat b).toNat = b := UInt8.toNat_ofNat_of_lt' hb
  rw [decodeFrom]
  simp only [htoNat, hlow, hhigh, and_self, if_true, Nat.le_refl]

/-! ## Characters and texts -/

/-- The code points of characters leave the surrogates out. -/
theorem not_surrogate (c : Char) : c.toNat < 0xD800 ∨ (0xDFFF < c.toNat ∧ c.toNat < 0x110000) :=
  c.valid

theorem decodeFrom_encodeChar (c : Char) (rest : List UInt8) :
    decodeFrom none (String.utf8EncodeChar c ++ rest) = (decodeFrom none rest).map (c :: ·) := by
  have hvalid := not_surrogate c
  have hself : Char.ofNat c.toNat = c := Char.ofNat_toNat c
  have hval : c.val.toNat = c.toNat := rfl
  rw [String.utf8EncodeChar]
  simp only [hval]
  generalize hn : c.toNat = n at hvalid hself
  split
  · have htoNat : (UInt8.ofNat n).toNat = n := UInt8.toNat_ofNat_of_lt' (show n < 256 by omega)
    rw [List.singleton_append, decodeFrom, htoNat, lead, if_pos (by omega), hself]
  split
  · -- two bytes
    simp only [List.cons_append, List.nil_append]
    rw [decodeFrom_lead (by omega) (lead_two (by omega) (by omega)),
      decodeFrom_last (by omega) (by omega) (by omega)]
    rw [show (n / 64 % 32 + 192 - 0xC0) * 64 + (n % 64 + 128 - 0x80) = n by omega, hself]
  split
  · -- three bytes
    simp only [List.cons_append, List.nil_append]
    obtain ⟨low, high, hlead, hlow, hhigh⟩ :=
      lead_three (n / 4096 % 16 + 224) (n / 64 % 64 + 128) (by omega) (by omega) (by omega)
        (by omega) (by omega) (by omega)
    rw [decodeFrom_lead (by omega) hlead, decodeFrom_middle (by omega) hlow hhigh,
      decodeFrom_last (by omega) (by omega) (by omega)]
    rw [show ((n / 4096 % 16 + 224 - 0xE0) * 64 + (n / 64 % 64 + 128 - 0x80)) * 64 + (n % 64 + 128 - 0x80) = n
      by omega, hself]
  · -- four bytes
    simp only [List.cons_append, List.nil_append]
    obtain ⟨low, high, hlead, hlow, hhigh⟩ :=
      lead_four (n / 262144 % 8 + 240) (n / 4096 % 64 + 128) (by omega) (by omega) (by omega)
        (by omega) (by omega) (by omega)
    rw [decodeFrom_lead (by omega) hlead, decodeFrom_middle (by omega) hlow hhigh,
      decodeFrom_middle (by omega) (by omega) (by omega), decodeFrom_last (by omega) (by omega) (by omega)]
    rw [show (((n / 262144 % 8 + 240 - 0xF0) * 64 + (n / 4096 % 64 + 128 - 0x80)) * 64 +
      (n / 64 % 64 + 128 - 0x80)) * 64 + (n % 64 + 128 - 0x80) = n by omega, hself]

/-- The bytes of a text. -/
def encode (cs : List Char) : List UInt8 :=
  cs.flatMap String.utf8EncodeChar

/-- The bytes of a text are decoded to the text. -/
theorem decode_encode (cs : List Char) : decode (encode cs) = .ok cs := by
  induction cs with
  | nil => rfl
  | cons c cs ih =>
    rw [decode, encode, List.flatMap_cons, decodeFrom_encodeChar]
    rw [decode, encode] at ih
    rw [ih]
    rfl

end TypedRpc.Text.Utf8
