import Mathlib.Data.List.TakeWhile
import TypedRpc.Proofs.TypeScript.PropertyName
import TypedRpc.Proofs.TypeScript.Unambiguous

/-!
# Well-formed property names

The grammar of property names, as far as it concerns identifiers and single-quoted literals, apart from the reader for
them. The spelling of a name follows it if and only if the name holds no line break, which is when it is read back; the
escapes of a quoted name are a backslash and a quote only. Main statement: `propertyName_wellFormed_iff`.
-/

namespace TypedRpc.TypeScript.PropertyName

/-! ## Grammar -/

/-- The text ends on the line on which it begins. -/
def OnOneLine (text : List Char) : Prop :=
  ∀ c ∈ text, c ≠ '\n' ∧ c ≠ '\r'

instance (text : List Char) : Decidable (OnOneLine text) :=
  List.decidableBAll _ text

/-- What can stand between single quotes: characters for themselves, and any behind a backslash, but no line break. -/
inductive Quotable : List Char → Prop
  | nil : Quotable []
  | plain {c : Char} {rest : List Char} (hplain : ¬ (c = '\\' ∨ c = '\'')) (hline : c ≠ '\n' ∧ c ≠ '\r')
      (hrest : Quotable rest) : Quotable (c :: rest)
  | escape {c : Char} {rest : List Char} (hline : c ≠ '\n' ∧ c ≠ '\r') (hrest : Quotable rest) :
      Quotable ('\\' :: c :: rest)

/-- The text is an identifier, or one literal from its opening to its closing quote. -/
def WellFormed (text : List Char) : Prop :=
  isIdentifier text = true ∨ ∃ body, text = '\'' :: body ++ ['\''] ∧ Quotable body

theorem Quotable.onOneLine {body : List Char} (h : Quotable body) : OnOneLine body := by
  induction h with
  | nil => exact nofun
  | plain _ hline _ ih => exact List.forall_mem_cons.mpr ⟨hline, ih⟩
  | escape hline _ ih => exact List.forall_mem_cons.mpr ⟨by decide, List.forall_mem_cons.mpr ⟨hline, ih⟩⟩

theorem onOneLine_of_isIdentifier {name : List Char} (h : isIdentifier name = true) : OnOneLine name := by
  intro c hc
  have hpart : isIdentifierPart c = true := isWord_of_isIdentifier h c hc
  constructor
  · rintro rfl
    revert hpart
    decide
  · rintro rfl
    revert hpart
    decide

/-! ## Spellings -/

theorem mem_escapeChar (c : Char) : c ∈ escapeChar c := by
  by_cases hc : c = '\\' ∨ c = '\''
  · simp [escapeChar_of_special hc]
  · simp [escapeChar_of_plain hc]

theorem quotable_escaped {name : List Char} (h : OnOneLine name) : Quotable (name.flatMap escapeChar) := by
  induction name with
  | nil => exact .nil
  | cons c name ih =>
    obtain ⟨hline, hname⟩ := List.forall_mem_cons.mp h
    rw [List.flatMap_cons]
    by_cases hc : c = '\\' ∨ c = '\''
    · rw [escapeChar_of_special hc]
      exact .escape hline (ih hname)
    · rw [escapeChar_of_plain hc]
      exact .plain hc hline (ih hname)

theorem wellFormed_spell_iff {name : List Char} : WellFormed (spell name) ↔ OnOneLine name := by
  unfold spell
  split
  · rename_i hidentifier
    exact iff_of_true (.inl hidentifier) (onOneLine_of_isIdentifier hidentifier)
  · constructor
    · rintro (hidentifier | ⟨body, hbody, hquotable⟩)
      · -- a quote begins no identifier
        cases hidentifier
      · obtain rfl := List.append_cancel_right (List.cons.inj hbody).2
        intro c hc
        exact hquotable.onOneLine c (List.mem_flatMap.mpr ⟨c, hc, mem_escapeChar c⟩)
    · intro hname
      exact .inr ⟨_, rfl, quotable_escaped hname⟩

/-- Different names are spelled differently, also those with line breaks. -/
theorem spell_injective : Function.Injective spell := by
  intro name name' h
  have hspell : spell name ++ [] = spell name' ++ [] := by rw [h]
  exact (spell_append_inj stops_nil stops_nil hspell).1

/-! ## Reading -/

theorem line_of_unescape {c value : Char} (h : unescape? c = some value) : c ≠ '\n' ∧ c ≠ '\r' := by
  constructor
  · rintro rfl
    cases h
  · rintro rfl
    cases h

/-- What is read behind an opening quote is quotable, together with the backslash that comes before it if it is read
as escaped. -/
theorem quotable_of_readQuoted {escaped : Bool} {text value rest : List Char}
    (h : readQuoted escaped text = some (value, rest)) :
    ∃ body, text = body ++ '\'' :: rest ∧ Quotable (if escaped then '\\' :: body else body) := by
  induction text generalizing escaped value with
  | nil => cases h
  | cons c text ih =>
    rw [readQuoted] at h
    cases escaped with
    | true =>
      obtain ⟨d, hd, h⟩ := Option.bind_eq_some_iff.mp (by simpa using h)
      obtain ⟨⟨value', rest'⟩, hread, hparts⟩ := Option.map_eq_some_iff.mp h
      cases hparts
      obtain ⟨body, rfl, hbody⟩ := ih hread
      exact ⟨c :: body, rfl, .escape (line_of_unescape hd) hbody⟩
    | false =>
      by_cases hquote : c = '\''
      · obtain ⟨rfl, rfl⟩ : [] = value ∧ text = rest := by simpa [hquote] using h
        exact ⟨[], by rw [hquote, List.nil_append], .nil⟩
      by_cases hbackslash : c = '\\'
      · obtain ⟨body, rfl, hbody⟩ := ih (by simpa [hbackslash] using h)
        exact ⟨c :: body, rfl, by simpa [hbackslash] using hbody⟩
      by_cases hline : c = '\n' ∨ c = '\r'
      · simp [hquote, hbackslash, hline] at h
      · simp only [Bool.false_eq_true, hquote, hbackslash, hline, if_false] at h
        obtain ⟨⟨value', rest'⟩, hread, hparts⟩ := Option.map_eq_some_iff.mp h
        cases hparts
        obtain ⟨body, rfl, hbody⟩ := ih hread
        exact ⟨c :: body, rfl, .plain (not_or.mpr ⟨hbackslash, hquote⟩) (not_or.mp hline) hbody⟩

/-- Only well-formed names are read to their end. -/
theorem wellFormed_of_read {text value : List Char} (h : read text = some (value, [])) : WellFormed text := by
  cases text with
  | nil => cases h
  | cons first text =>
    rw [read] at h
    by_cases hquote : first = '\''
    · obtain ⟨body, rfl, hbody⟩ := quotable_of_readQuoted (by simpa [hquote] using h)
      exact .inr ⟨body, by rw [hquote, List.cons_append], by simpa using hbody⟩
    by_cases hstart : isIdentifierStart first = true
    · rw [if_neg hquote, if_pos hstart] at h
      have hrest : text.dropWhile isIdentifierPart = [] := (Prod.mk.inj (Option.some.inj h)).2
      refine .inl ?_
      rw [isIdentifier, hstart, Bool.true_and, List.all_eq_true]
      exact List.dropWhile_eq_nil_iff.mp hrest
    · rw [if_neg hquote, if_neg hstart] at h
      cases h

/-- A spelling is read as its name exactly when the name holds no line break. -/
theorem read_spell_iff {name : List Char} : read (spell name) = some (name, []) ↔ OnOneLine name := by
  constructor
  · intro h
    exact wellFormed_spell_iff.mp (wellFormed_of_read h)
  · intro h
    have hread : read (spell name ++ []) = some (name, []) := read_spell h rfl
    rwa [List.append_nil] at hread

/-- **Names without line breaks survive escaping.** The property name for a name is an identifier or one complete
literal exactly when no line break stands in the name, and exactly then it is read back as it. No other name has the
same property name, whatever the two hold. -/
theorem propertyName_wellFormed_iff (name : String) :
    (WellFormed (propertyName name).toList ↔ OnOneLine name.toList) ∧
    (read (propertyName name).toList = some (name.toList, []) ↔ OnOneLine name.toList) ∧
    ∀ other, propertyName other = propertyName name ↔ other = name := by
  have hspelled (name : String) : (propertyName name).toList = spell name.toList := by
    rw [propertyName, String.toList_ofList]
  rw [hspelled]
  refine ⟨wellFormed_spell_iff, read_spell_iff, fun other => ?_⟩
  rw [← String.toList_inj, hspelled, hspelled, spell_injective.eq_iff, String.toList_inj]

/-- A line feed in a name is not escaped: the literal is not closed on its line, and nothing is read. -/
theorem propertyName_lineFeed :
    propertyName "a\nb" = "'a\nb'" ∧ ¬ WellFormed (propertyName "a\nb").toList ∧
    read (propertyName "a\nb").toList = none := by
  have hspelled : propertyName "a\nb" = "'a\nb'" := by decide
  refine ⟨hspelled, ?_, by decide +kernel⟩
  rw [propertyName, String.toList_ofList, wellFormed_spell_iff]
  decide

end TypedRpc.TypeScript.PropertyName
