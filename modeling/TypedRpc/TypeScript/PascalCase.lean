import TypedRpc.Text.Alphanumeric
import TypedRpc.Text.LetterCase
import TypedRpc.Text.Split

/-!
Pascal case. Type aliases are named after handlers: each word of a handler's key begins uppercase, and what an
alias name cannot hold is dropped at the boundary between two words.
-/

namespace TypedRpc.TypeScript

open TypedRpc.Text

/-- Makes the first character uppercase and leaves the others as they are. -/
def capitalize : List Char → List Char
  | [] => []
  | first :: rest => uppercase first ++ rest

/-- A text with its first character uppercase. -/
def pascalCase (s : String) : String :=
  String.ofList (capitalize s.toList)

/-- A character that ends a word of an alias name: neither a letter, nor a number, nor `$`. -/
def isWordBreak (c : Char) : Bool :=
  !(isAlphanumeric c || c == '$')

/-- The words of a text, each capitalized, written without what stood between them. -/
def aliasWord (segment : String) : String :=
  String.ofList ((splitWhere isWordBreak segment.toList).flatMap capitalize)

end TypedRpc.TypeScript
