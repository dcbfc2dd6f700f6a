import TypedRpc.Json.Printer
import TypedRpc.Regex.Reader

/-!
What a directive may want of a field: that it is there, or that its value is some truth value or number, or that its
value is a text of some form, which a regular expression says.
-/

namespace TypedRpc.Logging

/-! ## Numbers -/

/-- A text without a sign in front. -/
def withoutSign : List Char → List Char
  | '+' :: rest => rest
  | '-' :: rest => rest
  | cs => cs

/-- Digits, with a point among them at most. -/
def isDecimal (cs : List Char) : Bool :=
  let (whole, rest) := cs.span Char.isDigit
  match rest with
  | [] => !whole.isEmpty
  | '.' :: fraction => fraction.all Char.isDigit && !(whole.isEmpty && fraction.isEmpty)
  | _ => false

/-- A text reads as a number, possibly with an exponent; infinity is one, and so is what is no number. -/
def isNumber (text : String) : Bool :=
  let cs := withoutSign (text.toList.map Char.toLower)
  let (digits, exponent) := cs.span (· != 'e')
  ["inf", "infinity", "nan"].contains (String.ofList cs)
    || (isDecimal digits
      && match exponent with
        | [] => true
        | _ :: power => !(withoutSign power).isEmpty && (withoutSign power).all Char.isDigit)

/-! ## Values -/

/-- What the value of a field should be. -/
inductive ValuePattern where
  /-- A truth value or a number, as it is written. -/
  | literal (text : String)
  /-- A text that a regular expression accepts. -/
  | form (text : String) (regex : Regex)
  deriving DecidableEq, Repr

namespace ValuePattern

/-- Reads what a value should be; it may be no regular expression. -/
def parse? (text : String) : Option ValuePattern :=
  if text = "true" || text = "false" || isNumber text then some (.literal text)
  else (Regex.parse? text).map (.form text)

/-- A value is what it should be. -/
def fits : ValuePattern → Json.Value → Bool
  | .literal text, value => value.text?.isNone && value.print = text
  | .form _ regex, value => value.text?.any regex.accepts

end ValuePattern

/-- What a directive wants of a field: that it is there, and possibly what it is. -/
structure FieldPattern where
  name : String
  value : Option ValuePattern
  deriving DecidableEq, Repr

end TypedRpc.Logging
