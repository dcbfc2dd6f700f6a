import Mathlib.Data.List.Basic
import TypedRpc.Declaration.RenameRule
import TypedRpc.Proofs.Text.Ascii
import TypedRpc.Proofs.Text.Split

/-!
# Rules for the names of fields

The rules are there to name fields as the serializer does, which reads a name as words with underscores between them. It
takes the names of fields to be lowercase already, so to it the rule `lowercase` changes nothing, whereas here it makes
uppercase letters lowercase. Main statement: `apply_eq_wireName_iff`.
-/

namespace TypedRpc.Declaration.RenameRule

open TypedRpc.Text

/-! ## The rules of the serializer -/

/-- The words of a name: what stands between its underscores, and before the first and after the last. -/
def words (name : List Char) : List (List Char) :=
  splitWhere (· == '_') name

/-- A word with its first letter in uppercase. -/
def capitalized : List Char → List Char
  | [] => []
  | first :: rest => first.toUpper :: rest

/-- What the serializer makes of the characters of a name. -/
def wireChars (rule : RenameRule) (name : List Char) : List Char :=
  match rule with
  | unchanged | lowercase | snakeCase => name
  | uppercase | screamingSnakeCase => name.map Char.toUpper
  | pascalCase => (words name).flatMap capitalized
  | camelCase => lowerFirst ((words name).flatMap capitalized)
  | kebabCase => ['-'].intercalate (words name)
  | screamingKebabCase => ['-'].intercalate (words (name.map Char.toUpper))

/-- The name that the serializer gives a field of a record with a rule. -/
def wireName (rule : RenameRule) (name : String) : String :=
  String.ofList (rule.wireChars name.toList)

/-! ## Words -/

theorem words_ne_nil (name : List Char) : words name ≠ [] :=
  splitWhere_ne_nil _ name

theorem words_underscore (rest : List Char) : words ('_' :: rest) = [] :: words rest := by
  simp [words, splitWhere]

theorem words_cons {c : Char} (hc : c ≠ '_') {rest word : List Char} {others : List (List Char)}
    (h : words rest = word :: others) : words (c :: rest) = (c :: word) :: others := by
  rw [words] at h ⊢
  simp [splitWhere, hc, h, consFirst]

/-- In the middle of a word, that one keeps its first letter and the others are capitalized. -/
theorem capitalizeWords_eq (first : Bool) {name word : List Char} {others : List (List Char)}
    (h : words name = word :: others) :
    capitalizeWords first name =
      (if first then capitalized word else word) ++ others.flatMap capitalized := by
  induction name generalizing first word others with
  | nil =>
    cases h
    cases first <;> rfl
  | cons c rest ih =>
    obtain ⟨next, later, hrest⟩ := List.exists_cons_of_ne_nil (words_ne_nil rest)
    by_cases hc : c = '_'
    · subst hc
      rw [words_underscore, hrest] at h
      cases h
      rw [capitalizeWords, if_pos rfl, ih true hrest]
      cases first <;> rfl
    · rw [words_cons hc hrest] at h
      cases h
      rw [capitalizeWords, if_neg hc, ih false hrest]
      cases first <;> rfl

theorem capitalizeWords_true (name : List Char) : capitalizeWords true name = (words name).flatMap capitalized := by
  obtain ⟨word, others, h⟩ := List.exists_cons_of_ne_nil (words_ne_nil name)
  rw [capitalizeWords_eq true h, h, if_pos rfl, List.flatMap_cons]

theorem dashed_eq (name : List Char) : dashed name = ['-'].intercalate (words name) := by
  induction name with
  | nil => rfl
  | cons c rest ih =>
    obtain ⟨word, others, hrest⟩ := List.exists_cons_of_ne_nil (words_ne_nil rest)
    rw [dashed, List.map_cons, ← dashed, ih]
    by_cases hc : c = '_'
    · subst hc
      rw [words_underscore, hrest, List.intercalate_cons_cons, if_pos rfl]
      rfl
    · rw [words_cons hc hrest, hrest, if_neg hc]
      cases others with
      | nil => simp
      | cons next later => simp [List.intercalate_cons_cons]

/-! ## Letters -/

theorem toLower_eq_self_iff {c : Char} : c.toLower = c ↔ c.isUpper = false := by
  rw [← Char.toNat_inj, toNat_toLower]
  cases c.isUpper <;> simp

theorem map_toLower_eq_self_iff {name : List Char} :
    name.map Char.toLower = name ↔ ∀ c ∈ name, c.isUpper = false := by
  induction name with
  | nil => simp
  | cons c rest ih => simp [ih, toLower_eq_self_iff]

/-! ## The rules compared -/

theorem applyChars_eq {rule : RenameRule} (h : rule ≠ lowercase) (name : List Char) :
    rule.applyChars name = rule.wireChars name := by
  cases rule with
  | lowercase => exact absurd rfl h
  | unchanged | uppercase | snakeCase | screamingSnakeCase => rfl
  | pascalCase => exact capitalizeWords_true name
  | camelCase => exact congrArg lowerFirst (capitalizeWords_true name)
  | kebabCase => exact dashed_eq name
  | screamingKebabCase => exact dashed_eq _

/-- **The rules are the serializer's, except for uppercase letters under `lowercase`.** -/
theorem apply_eq_wireName_iff (rule : RenameRule) (name : String) :
    rule.apply name = rule.wireName name ↔ (rule = lowercase → ∀ c ∈ name.toList, c.isUpper = false) := by
  rw [apply, wireName, String.ofList_inj]
  by_cases h : rule = lowercase
  · subst h
    simp only [forall_const]
    exact map_toLower_eq_self_iff
  · simp [h, applyChars_eq h]

/-- The name of a field that begins uppercase. -/
theorem apply_lowercase_uppercase :
    lowercase.apply "Id" = "id" ∧ lowercase.wireName "Id" = "Id" := by
  decide +kernel

end TypedRpc.Declaration.RenameRule
