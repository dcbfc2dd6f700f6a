/-!
Decoding UTF-8. Decoding stops at the first sequence that is not well-formed: a wrong first byte, an overlong
form, a surrogate, a code point above U+10FFFF, or a sequence that ends too early.
-/

namespace TypedRpc.Text.Utf8

/-- A sequence under way: the text from its first byte on, its bits so far, how many bytes are missing, and the
bounds of the next one. -/
structure Pending where
  start : List UInt8
  bits : Nat
  missing : Nat
  low : Nat
  high : Nat

/-- What a first byte announces. -/
inductive Lead where
  | single (c : Char)
  | sequence (bits missing low high : Nat)
  | invalid

/-- The bytes that may follow a first byte: after some, the second one is restricted, which excludes overlong
forms, surrogates and what lies above the last code point. -/
def lead (n : Nat) : Lead :=
  if n < 0x80 then .single (Char.ofNat n)
  else if n < 0xC2 then .invalid
  else if n < 0xE0 then .sequence (n - 0xC0) 1 0x80 0xBF
  else if n = 0xE0 then .sequence 0 2 0xA0 0xBF
  else if n = 0xED then .sequence 0xD 2 0x80 0x9F
  else if n < 0xF0 then .sequence (n - 0xE0) 2 0x80 0xBF
  else if n = 0xF0 then .sequence 0 3 0x90 0xBF
  else if n < 0xF4 then .sequence (n - 0xF0) 3 0x80 0xBF
  else if n = 0xF4 then .sequence 4 3 0x80 0x8F
  else .invalid

/-- Decodes the text after a sequence under way. -/
def decodeFrom : Option Pending → List UInt8 → Except (List UInt8) (List Char)
  | none, [] => .ok []
  | some pending, [] => .error pending.start
  | none, b :: rest =>
    match lead b.toNat with
    | .single c => (decodeFrom none rest).map (c :: ·)
    | .sequence bits missing low high => decodeFrom (some ⟨b :: rest, bits, missing, low, high⟩) rest
    | .invalid => .error (b :: rest)
  | some pending, b :: rest =>
    let n := b.toNat
    if pending.low ≤ n ∧ n ≤ pending.high then
      let bits := pending.bits * 64 + (n - 0x80)
      if pending.missing ≤ 1 then (decodeFrom none rest).map (Char.ofNat bits :: ·)
      else decodeFrom (some ⟨pending.start, bits, pending.missing - 1, 0x80, 0xBF⟩) rest
    else .error pending.start

/-- The characters of a text, or the text from its first malformed sequence on. -/
def decode (text : List UInt8) : Except (List UInt8) (List Char) :=
  decodeFrom none text

end TypedRpc.Text.Utf8
