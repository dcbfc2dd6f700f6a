import TypedRpc.Text.Printable

/-!
Texts quoted for a reader. A quoted text stands between double quotes on one line; what would not be seen, or
would be taken for the end of the quotation, is escaped.
-/

namespace TypedRpc.Text

/-- The code point of a character in hexadecimal, between braces. -/
def unicodeEscape (c : Char) : List Char :=
  "\\u\x7b".toList ++ Nat.toDigits 16 c.toNat ++ ['\x7d']

/-- A character as it stands inside a quoted text. -/
def quoteChar (c : Char) : List Char :=
  if c = '\x00' then ['\\', '0']
  else if c = '\t' then ['\\', 't']
  else if c = '\r' then ['\\', 'r']
  else if c = '\n' then ['\\', 'n']
  else if c = '\\' then ['\\', '\\']
  else if c = '"' then ['\\', '"']
  else if isExtender c || !isPrintable c then unicodeEscape c
  else [c]

/-- A text between double quotes, with everything escaped that does not show. -/
def quote (s : String) : String :=
  String.ofList ('"' :: s.toList.flatMap quoteChar ++ ['"'])

/-- A path between double quotes, with its single quotes escaped too. -/
def quotePath (path : String) : String :=
  String.ofList ('"' :: path.toList.flatMap (fun c => if c = '\'' then ['\\', c] else quoteChar c) ++ ['"'])

end TypedRpc.Text
