/-!
Cutting a text at its separators. `splitWhere` cuts at every character that satisfies a test, `splitPairs` at
every doubled character, found from the left without overlap; both keep the empty pieces, so the pieces and
the separators together are always the whole text.
-/

namespace TypedRpc.Text

/-- Puts a character in front of the first piece. -/
def consFirst (c : Char) : List (List Char) → List (List Char)
  | [] => [[c]]
  | piece :: rest => (c :: piece) :: rest

/-- The pieces between the characters that satisfy `isSeparator`. -/
def splitWhere (isSeparator : Char → Bool) : List Char → List (List Char)
  | [] => [[]]
  | c :: rest =>
    if isSeparator c then [] :: splitWhere isSeparator rest
    else consFirst c (splitWhere isSeparator rest)

/-- The pieces between the occurrences of `c` doubled. -/
def splitPairs (c : Char) : List Char → List (List Char)
  | [] => [[]]
  | [a] => [[a]]
  | a :: b :: rest =>
    if a = c ∧ b = c then [] :: splitPairs c rest
    else consFirst a (splitPairs c (b :: rest))

/-- The text before the first `c` and the text after it. -/
def splitFirst (c : Char) : List Char → Option (List Char × List Char)
  | [] => none
  | a :: rest =>
    if a = c then some ([], rest)
    else (splitFirst c rest).map fun (before, after) => (a :: before, after)

/-- The text before the last `c` and the text after it. -/
def splitLast (c : Char) (cs : List Char) : Option (List Char × List Char) :=
  (splitFirst c cs.reverse).map fun (after, before) => (before.reverse, after.reverse)

/-- Texts joined with a separator between each two. -/
def join (separator : String) (parts : List String) : String :=
  separator.intercalate parts

end TypedRpc.Text
