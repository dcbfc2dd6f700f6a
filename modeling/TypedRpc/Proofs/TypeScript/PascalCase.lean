import TypedRpc.Proofs.Text.Ascii
import TypedRpc.Proofs.Text.Split
import TypedRpc.TypeScript.PascalCase

/-!
# The characters of alias names

An alias word holds letters, numbers and `$` only, also where a letter became uppercase. So there is neither an
underscore nor a line break in it. That of an ASCII segment is ASCII, and it begins with the first of these characters
in the segment.
-/

namespace TypedRpc.TypeScript

open TypedRpc.Text

/-- An ASCII letter, a digit, `$`, or a character beyond ASCII. -/
def IsAliasChar (c : Char) : Prop :=
  c.isAlphanum = true ∨ c = '$' ∨ 0x80 ≤ c.toNat

instance (c : Char) : Decidable (IsAliasChar c) :=
  inferInstanceAs (Decidable (c.isAlphanum = true ∨ c = '$' ∨ 0x80 ≤ c.toNat))

theorem isAliasChar_of_not_isWordBreak {c : Char} (h : isWordBreak c = false) : IsAliasChar c := by
  simp only [isWordBreak, isAlphanumeric, Bool.not_eq_false', Bool.or_eq_true, beq_iff_eq] at h
  rcases h with h | h
  · split at h
    · exact .inl h
    · exact .inr (.inr (by omega))
  · exact .inr (.inl h)

/-! ## Uppercase forms -/

theorem isAliasChar_toUpper {c : Char} (h : IsAliasChar c) (hlt : c.toNat < 0x80) : IsAliasChar c.toUpper := by
  refine forall_ascii (P := fun c => IsAliasChar c → IsAliasChar c.toUpper) ?_ hlt h
  decide +kernel

theorem isAliasChar_expansions : ∀ entry ∈ uppercaseExpansions, ∀ n ∈ entry.2, IsAliasChar (Char.ofNat n) := by
  decide +kernel

/-- A shift leads beyond ASCII, outside the surrogates, or it is that of one character. -/
theorem isAliasChar_shifts : ∀ entry ∈ uppercaseShifts,
    (0x80 ≤ entry.1 + entry.2.2.2 ∧ entry.2.1 + entry.2.2.2 < 0xD800) ∨
    (0xE000 ≤ entry.1 + entry.2.2.2 ∧ entry.2.1 + entry.2.2.2 < 0x110000) ∨
    (entry.1 = entry.2.1 ∧ IsAliasChar (Char.ofNat (entry.1 + entry.2.2.2).toNat)) := by
  decide +kernel

theorem isAliasChar_ofNat {n : Nat} (hlow : 0x80 ≤ n) (hvalid : n < 0xD800 ∨ (0xE000 ≤ n ∧ n < 0x110000)) :
    IsAliasChar (Char.ofNat n) := by
  have hvalid : n.isValidChar := by
    rcases hvalid with h | ⟨h, h'⟩
    · exact .inl h
    · exact .inr ⟨h, h'⟩
  rw [Char.ofNat, dif_pos hvalid]
  exact .inr (.inr hlow)

theorem isAliasChar_of_mem_uppercase {c d : Char} (h : IsAliasChar c) (hd : d ∈ uppercase c) : IsAliasChar d := by
  unfold uppercase at hd
  split at hd
  · rename_i hlt
    rw [List.mem_singleton.mp hd]
    exact isAliasChar_toUpper h hlt
  rename_i hlow
  split at hd
  · rename_i parts hparts
    obtain ⟨n, hn, rfl⟩ := List.mem_map.mp hd
    obtain ⟨_, _, heq, _⟩ := List.lookup_eq_some_iff.mp hparts
    exact isAliasChar_expansions (c.toNat, parts) (by rw [heq]; simp) n hn
  split at hd
  · rename_i first last step shift hfound
    rw [List.mem_singleton.mp hd]
    have hrun := List.find?_some hfound
    have hentry := isAliasChar_shifts _ (List.mem_of_find?_eq_some hfound)
    simp only [inRun, Bool.and_eq_true, decide_eq_true_eq] at hrun hentry
    obtain ⟨⟨hfirst, hlast⟩, -⟩ := hrun
    rcases hentry with hbelow | habove | ⟨hone, hchar⟩
    · exact isAliasChar_ofNat (by omega) (.inl (by omega))
    · exact isAliasChar_ofNat (by omega) (.inr (by omega))
    · have heq : c.toNat = first := by omega
      rwa [heq]
  · rw [List.mem_singleton.mp hd]
    exact h

/-! ## Alias words -/

/-- What an alias word holds comes from its segment, some of it made uppercase. -/
theorem exists_of_mem_aliasWord {segment : String} {c : Char} (h : c ∈ (aliasWord segment).toList) :
    ∃ d ∈ segment.toList, isWordBreak d = false ∧ (c = d ∨ c ∈ uppercase d) := by
  rw [aliasWord, String.toList_ofList, List.mem_flatMap] at h
  obtain ⟨word, hword, hc⟩ := h
  have hchars : ∀ d ∈ word, d ∈ segment.toList ∧ isWordBreak d = false := fun d hd =>
    ⟨(infix_of_mem_splitWhere hword).subset hd, not_separator_of_mem_splitWhere hword d hd⟩
  cases word with
  | nil => exact absurd hc List.not_mem_nil
  | cons first rest =>
    rcases List.mem_append.mp hc with hfirst | hrest
    · obtain ⟨hmem, hbreak⟩ := hchars first List.mem_cons_self
      exact ⟨first, hmem, hbreak, .inr hfirst⟩
    · obtain ⟨hmem, hbreak⟩ := hchars c (List.mem_cons_of_mem _ hrest)
      exact ⟨c, hmem, hbreak, .inl rfl⟩

theorem isAliasChar_of_mem_aliasWord {segment : String} {c : Char} (h : c ∈ (aliasWord segment).toList) :
    IsAliasChar c := by
  obtain ⟨d, -, hbreak, rfl | hupper⟩ := exists_of_mem_aliasWord h
  · exact isAliasChar_of_not_isWordBreak hbreak
  · exact isAliasChar_of_mem_uppercase (isAliasChar_of_not_isWordBreak hbreak) hupper

/-! ## Alias words of ASCII segments -/

theorem isAscii_aliasWord {segment : String} (h : IsAscii segment) : IsAscii (aliasWord segment) := by
  intro c hc
  obtain ⟨d, hd, -, rfl | hupper⟩ := exists_of_mem_aliasWord hc
  · exact h c hd
  · rw [uppercase_of_ascii (h d hd), List.mem_singleton] at hupper
    rw [hupper]
    exact (toUpper_of_ascii (h d hd)).1

/-- An alias word begins with the first character of the segment that ends no word. -/
theorem head?_aliasWord {segment : String} (h : IsAscii segment) :
    (aliasWord segment).toList.head? = (segment.toList.find? fun c => !isWordBreak c).map Char.toUpper := by
  rw [aliasWord, String.toList_ofList]
  unfold IsAscii at h
  generalize segment.toList = text at h ⊢
  induction text with
  | nil => rfl
  | cons c text ih =>
    obtain ⟨hc, htext⟩ := List.forall_mem_cons.mp h
    rw [splitWhere]
    by_cases hbreak : isWordBreak c = true
    · rw [if_pos hbreak, List.find?_cons_of_neg (by simp [hbreak]), ← ih htext]
      rfl
    · obtain ⟨first, others, hpieces⟩ := List.exists_cons_of_ne_nil (splitWhere_ne_nil isWordBreak text)
      rw [if_neg hbreak, List.find?_cons_of_pos (by simp [hbreak]), hpieces, consFirst, List.flatMap_cons, capitalize,
        uppercase_of_ascii hc]
      rfl

end TypedRpc.TypeScript
