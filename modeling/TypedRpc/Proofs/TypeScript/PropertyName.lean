import TypedRpc.TypeScript.PropertyName

/-!
# Reading property names

A property name of the client language is an identifier or a quoted literal. The reader knows the rules of the
language for both, as far as they do not concern escapes by number; the spelling of a name without line breaks
is read as the name.
-/

namespace TypedRpc.TypeScript.PropertyName

/-- The character that stands for itself or for another one behind a backslash. The language has further escapes,
by number and at the end of a line, which are not read here. -/
def unescape? (c : Char) : Option Char :=
  if c = 'b' then some '\x08'
  else if c = 't' then some '\t'
  else if c = 'n' then some '\n'
  else if c = 'v' then some '\x0b'
  else if c = 'f' then some '\x0c'
  else if c = 'r' then some '\r'
  else if c.isDigit || c == 'x' || c == 'u' || c == '\n' || c == '\r' || c == '\u2028' || c == '\u2029' then none
  else some c

/-- The value of a single-quoted literal whose opening quote has been taken, and the text behind it; `escaped` says
that a backslash stands right before. A literal ends on its line. -/
def readQuoted (escaped : Bool) : List Char → Option (List Char × List Char)
  | [] => none
  | c :: rest =>
    if escaped then
      (unescape? c).bind fun value => (readQuoted false rest).map fun (name, rest) => (value :: name, rest)
    else if c = '\'' then some ([], rest)
    else if c = '\\' then readQuoted true rest
    else if c = '\n' ∨ c = '\r' then none
    else (readQuoted false rest).map fun (name, rest) => (c :: name, rest)

/-- The property name that begins the text, and the text behind it. -/
def read : List Char → Option (List Char × List Char)
  | [] => none
  | first :: rest =>
    if first = '\'' then readQuoted false rest
    else if isIdentifierStart first then
      some (first :: rest.takeWhile isIdentifierPart, rest.dropWhile isIdentifierPart)
    else none

/-- A quoted name is read up to its closing quote. -/
theorem readQuoted_escaped {name : List Char} (h : ∀ c ∈ name, c ≠ '\n' ∧ c ≠ '\r') (rest : List Char) :
    readQuoted false (name.flatMap escapeChar ++ '\'' :: rest) = some (name, rest) := by
  induction name with
  | nil => simp [readQuoted]
  | cons c name ih =>
    have hrest := ih fun d hd => h d (List.mem_cons_of_mem _ hd)
    obtain ⟨hline, hreturn⟩ := h c List.mem_cons_self
    rw [List.flatMap_cons, List.append_assoc, escapeChar]
    split
    · rename_i hbackslash
      simp [readQuoted, unescape?, hrest, hbackslash]
    · split
      · rename_i hquote
        simp [readQuoted, unescape?, hrest, hquote]
      · rename_i hbackslash hquote
        simp [readQuoted, hrest, hbackslash, hquote, hline, hreturn]

/-- A spelling is read as its name when no identifier could go on behind it. -/
theorem read_spell {name : List Char} (h : ∀ c ∈ name, c ≠ '\n' ∧ c ≠ '\r') {rest : List Char}
    (hrest : rest.takeWhile isIdentifierPart = []) : read (spell name ++ rest) = some (name, rest) := by
  unfold spell
  split
  · rename_i hidentifier
    cases name with
    | nil => simp [isIdentifier] at hidentifier
    | cons first name =>
      simp only [isIdentifier, Bool.and_eq_true, List.all_eq_true] at hidentifier
      obtain ⟨hfirst, hname⟩ := hidentifier
      have hquote : first ≠ '\'' := by
        rintro rfl
        revert hfirst
        decide
      have htake : (name ++ rest).takeWhile isIdentifierPart = name := by
        rw [List.takeWhile_append_of_pos hname, hrest, List.append_nil]
      have hdrop : (name ++ rest).dropWhile isIdentifierPart = rest := by
        have hsplit := List.takeWhile_append_dropWhile (p := isIdentifierPart) (l := name ++ rest)
        rw [htake] at hsplit
        exact List.append_cancel_left hsplit
      simp only [List.cons_append, read, hquote, hfirst, if_false, if_true, htake, hdrop]
  · simp only [List.cons_append, List.append_assoc, read, if_true, List.nil_append]
    exact readQuoted_escaped h rest

end TypedRpc.TypeScript.PropertyName
