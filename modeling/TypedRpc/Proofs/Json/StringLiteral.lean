import TypedRpc.Json.Literal
import TypedRpc.Json.Reader
import TypedRpc.Proofs.Text.Utf8

/-!
# Reading string literals

The reader takes a string literal in the form in which literals are written, whatever follows it, and gives the
string that was written.
-/

namespace TypedRpc.Json

open TypedRpc.Text

/-! ## How a character is written -/

theorem utf8EncodeChar_of_lt {c : Char} (h : c.toNat < 0x80) :
    String.utf8EncodeChar c = [UInt8.ofNat c.toNat] := by
  have hval : c.val.toNat ≤ 0x7F := Nat.le_of_lt_succ h
  simp only [String.utf8EncodeChar, hval, if_true]
  rfl

/-- A character beyond ASCII has bytes beyond ASCII only. -/
theorem le_of_mem_utf8EncodeChar {c : Char} (h : ¬ c.toNat < 0x80) {b : UInt8}
    (hb : b ∈ String.utf8EncodeChar c) : 0x80 ≤ b.toNat := by
  have hvalid := Utf8.not_surrogate c
  have hval : c.val.toNat = c.toNat := rfl
  simp only [String.utf8EncodeChar, hval, if_neg (show ¬ c.toNat ≤ 0x7F by omega)] at hb
  generalize c.toNat = n at h hvalid hb
  split at hb
  · simp only [List.mem_cons, List.not_mem_nil, or_false] at hb
    rcases hb with rfl | rfl <;> rw [UInt8.toNat_ofNat_of_lt' (by simp [UInt8.size]; omega)] <;> omega
  split at hb
  · simp only [List.mem_cons, List.not_mem_nil, or_false] at hb
    rcases hb with rfl | rfl | rfl <;> rw [UInt8.toNat_ofNat_of_lt' (by simp [UInt8.size]; omega)] <;> omega
  · simp only [List.mem_cons, List.not_mem_nil, or_false] at hb
    rcases hb with rfl | rfl | rfl | rfl <;> rw [UInt8.toNat_ofNat_of_lt' (by simp [UInt8.size]; omega)] <;> omega

/-- The byte stands for itself inside a string literal. -/
structure IsPlain (b : UInt8) : Prop where
  quote : b ≠ Reader.code '"'
  backslash : b ≠ Reader.code '\\'
  control : ¬ b < 0x20

theorem isPlain_of_mem {c : Char} (hquote : c ≠ '"') (hbackslash : c ≠ '\\') (hcontrol : ¬ c.toNat < 0x20)
    {b : UInt8} (hb : b ∈ String.utf8EncodeChar c) : IsPlain b := by
  have hne {d : Char} (hd : d.toNat < 0x20 ∨ d.toNat < 0x80) (h : c ≠ d) : b.toNat ≠ d.toNat := by
    by_cases hc : c.toNat < 0x80
    · rw [utf8EncodeChar_of_lt hc, List.mem_singleton] at hb
      rw [hb, UInt8.toNat_ofNat_of_lt' (by simp [UInt8.size]; omega)]
      exact fun heq => h (Char.toNat_inj.mp heq)
    · have := le_of_mem_utf8EncodeChar hc hb
      omega
  refine ⟨fun h => ?_, fun h => ?_, fun h => ?_⟩
  · exact hne (d := '"') (by decide) hquote (congrArg UInt8.toNat h)
  · exact hne (d := '\\') (by decide) hbackslash (congrArg UInt8.toNat h)
  · have hlt : b.toNat < 0x20 := h
    by_cases hc : c.toNat < 0x80
    · rw [utf8EncodeChar_of_lt hc, List.mem_singleton] at hb
      rw [hb, UInt8.toNat_ofNat_of_lt' (by simp [UInt8.size]; omega)] at hlt
      exact hcontrol hlt
    · have := le_of_mem_utf8EncodeChar hc hb
      omega

/-- The three ways of writing a character: as it is, with one letter, with the number of its code point. -/
theorem escapeChar_cases (c : Char) :
    (escapeChar c = [c] ∧ c ≠ '"' ∧ c ≠ '\\' ∧ ¬ c.toNat < 0x20) ∨
    (∃ letter, escapeChar c = ['\\', letter] ∧ String.utf8EncodeChar letter = [Reader.code letter] ∧
      Reader.simpleEscape? (Reader.code letter) = some c) ∨
    (c.toNat < 0x20 ∧ escapeChar c = controlEscape c) := by
  have hof {n : Nat} (h : c.toNat = n) : c = Char.ofNat n := by
    rw [← h, Char.ofNat_toNat]
  unfold escapeChar
  split
  · rename_i h
    exact .inr (.inl ⟨'"', rfl, rfl, by rw [h]; rfl⟩)
  split
  · rename_i h
    exact .inr (.inl ⟨'\\', rfl, rfl, by rw [h]; rfl⟩)
  split
  · rename_i h
    exact .inr (.inl ⟨'b', rfl, rfl, by rw [hof h]; rfl⟩)
  split
  · rename_i h
    exact .inr (.inl ⟨'f', rfl, rfl, by rw [hof h]; rfl⟩)
  split
  · rename_i h
    exact .inr (.inl ⟨'n', rfl, rfl, by rw [h]; rfl⟩)
  split
  · rename_i h
    exact .inr (.inl ⟨'r', rfl, rfl, by rw [h]; rfl⟩)
  split
  · rename_i h
    exact .inr (.inl ⟨'t', rfl, rfl, by rw [h]; rfl⟩)
  split
  · rename_i h
    exact .inr (.inr ⟨h, rfl⟩)
  · rename_i hquote hbackslash _ _ _ _ _ hcontrol
    exact .inl ⟨rfl, hquote, hbackslash, hcontrol⟩

/-- A control character is written with two hexadecimal digits after two zeros. -/
theorem encode_controlEscape {n : Nat} (h : n < 0x20) :
    Utf8.encode (controlEscape (Char.ofNat n)) =
      Reader.code '\\' :: Reader.code 'u' ::
        [Reader.code '0', Reader.code '0', Reader.code (Nat.digitChar (n / 16)),
          Reader.code (Nat.digitChar (n % 16))] := by
  revert n
  decide +kernel

theorem hexValue?_digitChar {n : Nat} (h : n < 16) : Reader.hexValue? (Reader.code (Nat.digitChar n)) = some n := by
  revert n
  decide +kernel

/-! ## Steps of the reader -/

namespace Reader

variable {size place place' steps : Nat} {rest tail bytes : List UInt8} {cursor : Cursor}

theorem bind_ok {α β : Type} {r : Reader α} {f : α → Reader β} {a : α} {c c' : Cursor} (h : r c = (.ok a, c')) :
    (r >>= f) c = f a c' := by
  simp only [bind, h]

theorem next_cons (size place : Nat) (b : UInt8) (rest : List UInt8) :
    next ⟨size, place, b :: rest⟩ = (.ok (some b), ⟨size, place + 1, rest⟩) :=
  rfl

theorem escapeByte_cons (size place : Nat) (b : UInt8) (rest : List UInt8) :
    escapeByte ⟨size, place, b :: rest⟩ = (.ok b, ⟨size, place + 1, rest⟩) :=
  rfl

theorem stringBytes_plain {b : UInt8} (hb : IsPlain b)
    (h : stringBytes steps ⟨size, place + 1, rest⟩ = (.ok bytes, cursor)) :
    stringBytes (steps + 1) ⟨size, place, b :: rest⟩ = (.ok (b :: bytes), cursor) := by
  rw [stringBytes, bind_ok (next_cons ..)]
  simp only [beq_iff_eq, hb.quote, hb.backslash, hb.control, if_false]
  rw [bind_ok h]
  rfl

theorem stringBytes_plains {plains : List UInt8} (hplains : ∀ b ∈ plains, IsPlain b)
    (h : ∀ place, ∃ place', stringBytes steps ⟨size, place, rest⟩ = (.ok bytes, ⟨size, place', tail⟩)) :
    ∀ place, ∃ place', stringBytes (plains.length + steps) ⟨size, place, plains ++ rest⟩ =
      (.ok (plains ++ bytes), ⟨size, place', tail⟩) := by
  induction plains with
  | nil => simpa using h
  | cons b plains ih =>
    intro place
    obtain ⟨place', hrest⟩ := ih (fun b hb => hplains b (List.mem_cons_of_mem _ hb)) (place + 1)
    refine ⟨place', ?_⟩
    rw [List.length_cons, Nat.add_right_comm]
    exact stringBytes_plain (hplains b List.mem_cons_self) hrest

theorem stringBytes_escape {c : Char} {escaped : List UInt8}
    (hescape : escape ⟨size, place + 1, escaped⟩ = (.ok c, ⟨size, place', rest⟩))
    (h : stringBytes steps ⟨size, place', rest⟩ = (.ok bytes, cursor)) :
    stringBytes (steps + 1) ⟨size, place, code '\\' :: escaped⟩ =
      (.ok (String.utf8EncodeChar c ++ bytes), cursor) := by
  rw [stringBytes, bind_ok (next_cons ..)]
  simp only [beq_iff_eq, show code '\\' ≠ code '"' by decide, if_true, if_false]
  rw [bind_ok hescape, bind_ok h]
  rfl

theorem escape_simple {b : UInt8} {c : Char} (h : simpleEscape? b = some c) :
    escape ⟨size, place, b :: rest⟩ = (.ok c, ⟨size, place + 1, rest⟩) := by
  rw [escape, bind_ok (escapeByte_cons ..)]
  simp only [h]
  rfl

theorem escape_control {n : Nat} (h : n < 0x20) (size place : Nat) (rest : List UInt8) :
    escape ⟨size, place, code 'u' ::
      ([code '0', code '0', code (Nat.digitChar (n / 16)), code (Nat.digitChar (n % 16))] ++ rest)⟩ =
      (.ok (Char.ofNat n), ⟨size, place + 5, rest⟩) := by
  have hhex : hexEscape ⟨size, place + 1,
      [code '0', code '0', code (Nat.digitChar (n / 16)), code (Nat.digitChar (n % 16))] ++ rest⟩ =
      (.ok n, ⟨size, place + 5, rest⟩) := by
    simp only [hexEscape, List.cons_append, List.nil_append, hexValue?_digitChar (show n / 16 < 16 by omega),
      hexValue?_digitChar (show n % 16 < 16 by omega), show hexValue? (code '0') = some 0 from rfl]
    rw [show ((0 * 16 + 0) * 16 + n / 16) * 16 + n % 16 = n by omega]
  rw [escape, bind_ok (escapeByte_cons ..)]
  simp only [show simpleEscape? (code 'u') = none from rfl, beq_self_eq_true, if_true]
  rw [unicodeEscape, bind_ok hhex]
  simp only [show ¬ 0xDC00 ≤ n by omega, show ¬ 0xD800 ≤ n by omega, decide_false, Bool.false_and,
    Bool.false_eq_true, if_false]
  rfl

/-! ## A whole literal -/

/-- The escaped characters of a string and the closing quote are read as the bytes of the string. -/
theorem stringBytes_escaped (cs : List Char) (tail : List UInt8) (size steps : Nat)
    (hsteps : (Utf8.encode (cs.flatMap escapeChar)).length < steps) (place : Nat) :
    ∃ place', stringBytes steps ⟨size, place, Utf8.encode (cs.flatMap escapeChar) ++ code '"' :: tail⟩ =
      (.ok (Utf8.encode cs), ⟨size, place', tail⟩) := by
  induction cs generalizing steps place with
  | nil =>
    obtain ⟨steps, rfl⟩ := Nat.exists_eq_add_one.mpr (Nat.zero_lt_of_lt hsteps)
    exact ⟨place + 1, rfl⟩
  | cons c cs ih =>
    simp only [List.flatMap_cons, Utf8.encode, List.flatMap_append, List.length_append, List.append_assoc]
      at hsteps ih ⊢
    rcases escapeChar_cases c with
      ⟨heq, hquote, hbackslash, hcontrol⟩ | ⟨letter, heq, hletter, hsimple⟩ | ⟨hlt, heq⟩
    · -- the bytes of the character stand for themselves
      rw [heq, List.flatMap_singleton] at hsteps ⊢
      obtain ⟨more, rfl⟩ := Nat.exists_eq_add_of_le (Nat.le_of_lt (Nat.lt_of_le_of_lt (Nat.le_add_right _ _) hsteps))
      exact stringBytes_plains (fun b hb => isPlain_of_mem hquote hbackslash hcontrol hb)
        (ih more (by omega)) place
    · obtain ⟨steps, rfl⟩ := Nat.exists_eq_add_one.mpr (Nat.zero_lt_of_lt hsteps)
      have hescaped : ['\\', letter].flatMap String.utf8EncodeChar = [code '\\', code letter] := by
        rw [List.flatMap_cons, List.flatMap_singleton, hletter]
        rfl
      rw [heq, hescaped] at hsteps ⊢
      simp only [List.length_cons, List.length_nil] at hsteps
      obtain ⟨place', hrest⟩ := ih steps (by omega) (place + 2)
      exact ⟨place', stringBytes_escape (escape_simple hsimple) hrest⟩
    · obtain ⟨steps, rfl⟩ := Nat.exists_eq_add_one.mpr (Nat.zero_lt_of_lt hsteps)
      have hcontrol := encode_controlEscape hlt
      rw [Char.ofNat_toNat, Utf8.encode] at hcontrol
      rw [heq, hcontrol] at hsteps ⊢
      simp only [List.length_cons, List.length_nil] at hsteps
      obtain ⟨place', hrest⟩ := ih steps (by omega) (place + 6)
      have hescape := escape_control hlt size (place + 1) (Utf8.encode (cs.flatMap escapeChar) ++ code '"' :: tail)
      rw [Char.ofNat_toNat] at hescape
      exact ⟨place', stringBytes_escape hescape hrest⟩

end Reader

/-- The string whose literal begins the text, and the bytes behind the literal. -/
def readLiteral (text : List UInt8) : Option (String × List UInt8) :=
  match text with
  | [] => none
  | b :: rest =>
    if b = Reader.code '"' then
      match Reader.string ⟨text.length, 1, rest⟩ with
      | (.ok s, cursor) => some (s, cursor.rest)
      | (.error _, _) => none
    else none

/-- A literal is read as the string that it was written for. -/
theorem readLiteral_stringLiteral (s : String) (tail : List UInt8) :
    readLiteral (Utf8.encode (stringLiteral s).toList ++ tail) = some (s, tail) := by
  have htext : Utf8.encode (stringLiteral s).toList ++ tail =
      Reader.code '"' :: (Utf8.encode (s.toList.flatMap escapeChar) ++ Reader.code '"' :: tail) := by
    simp only [stringLiteral, String.toList_ofList, Utf8.encode, List.flatMap_append, List.flatMap_cons,
      List.flatMap_nil, List.append_nil, List.cons_append, List.append_assoc]
    rfl
  rw [htext, readLiteral]
  simp only [if_true]
  generalize hsize :
    (Reader.code '"' :: (Utf8.encode (s.toList.flatMap escapeChar) ++ Reader.code '"' :: tail)).length = size
  have hsteps : (Utf8.encode (s.toList.flatMap escapeChar)).length < size + 1 := by
    simp only [List.length_cons, List.length_append] at hsize
    omega
  obtain ⟨place', hbytes⟩ := Reader.stringBytes_escaped s.toList tail size (size + 1) hsteps 1
  have hstring : Reader.string ⟨size, 1, Utf8.encode (s.toList.flatMap escapeChar) ++ Reader.code '"' :: tail⟩ =
      (.ok s, ⟨size, place', tail⟩) := by
    change (Reader.stringBytes (size + 1) >>= _) _ = _
    rw [Reader.bind_ok hbytes, Utf8.decode_encode]
    simp only [String.ofList_toList]
    rfl
  rw [hstring]

end TypedRpc.Json
