import TypedRpc.Regex.CharClass

/-!
Regular expressions and what they accept. An expression may match a text in several ways, of which it prefers some
to others: earlier branches, and more repetitions unless they are lazy. A text is accepted if the preferred match
that begins at its start ends at its end.

Matching goes through the text with the list of what is still to be matched, in order of preference. A way that is
complete before the text ends makes all that are less preferred pointless.
-/

namespace TypedRpc

/-- A condition on a place in a text. -/
inductive Look where
  | textStart
  | textEnd
  /-- The start of a line; a carriage return may end lines too. -/
  | lineStart (carriageReturn : Bool)
  /-- The end of a line; a carriage return may end lines too. -/
  | lineEnd (carriageReturn : Bool)
  | wordBoundary
  | noWordBoundary
  | wordStart
  | wordEnd
  deriving DecidableEq, Repr

/-- A regular expression. -/
inductive Regex where
  | empty
  /-- A character of a class. -/
  | char (chars : CharClass)
  | look (condition : Look)
  | concat (first second : Regex)
  /-- One of two, the first if possible. -/
  | choice (first second : Regex)
  /-- Any number of times, as often as possible if greedy and as seldom as possible otherwise. -/
  | star (greedy : Bool) (body : Regex)
  deriving DecidableEq, Repr

/-- A place in a text: the characters around it. -/
structure Place where
  before : Option Char
  after : Option Char

namespace Place

/-- A character of words is there. -/
def isWord (c : Option Char) : Bool :=
  c.any fun c => CharClass.word.contains c.toNat

/-- The condition holds at the place. -/
def satisfies (place : Place) : Look → Bool
  | .textStart => place.before.isNone
  | .textEnd => place.after.isNone
  | .lineStart carriageReturn =>
    place.before.all (· == '\n')
      || (carriageReturn && place.before == some '\r' && place.after != some '\n')
  | .lineEnd carriageReturn =>
    if carriageReturn then
      place.after.all (· == '\r') || (place.after == some '\n' && place.before != some '\r')
    else place.after.all (· == '\n')
  | .wordBoundary => isWord place.before != isWord place.after
  | .noWordBoundary => isWord place.before == isWord place.after
  | .wordStart => !isWord place.before && isWord place.after
  | .wordEnd => isWord place.before && !isWord place.after

end Place

namespace Regex

/-- An expression that may be left out. -/
def optional (greedy : Bool) (body : Regex) : Regex :=
  if greedy then choice body empty else choice empty body

/-- Once or more. -/
def plus (greedy : Bool) (body : Regex) : Regex :=
  concat body (star greedy body)

/-- How an expression can be gone on with. -/
inductive Move where
  /-- It is complete. -/
  | done
  /-- It takes a character of a class, and the rest is to be matched. -/
  | take (chars : CharClass) (rest : Regex)
  deriving DecidableEq, Repr

/-- How an expression can be gone on with at a place, the preferred ways first. A repetition that takes nothing is
the last one. -/
def moves (place : Place) : Regex → List Move
  | empty => [.done]
  | char chars => [.take chars empty]
  | look condition => if place.satisfies condition then [.done] else []
  | concat first second =>
    ((moves place first).flatMap fun
      | .done => moves place second
      | .take chars rest => [.take chars (concat rest second)]).eraseDups
  | choice first second => moves place first ++ moves place second
  | star greedy body =>
    let again := (moves place body).map fun
      | .done => .done
      | .take chars rest => .take chars (concat rest (star greedy body))
    if greedy then again ++ [.done] else .done :: again

/-- What is to be matched after a character that is taken, and nothing after what is complete. -/
def after (c : Char) : List Move → List Regex
  | [] => []
  | .done :: _ => []
  | .take chars rest :: others =>
    if chars.contains c.toNat then rest :: after c others else after c others

/-- The preferred of the matches that go on with one of some expressions ends at the end of the text. -/
def acceptsFrom (before : Option Char) (expressions : List Regex) : List Char → Bool
  | [] => (expressions.flatMap (moves ⟨before, none⟩)).contains .done
  | c :: rest =>
    acceptsFrom (some c) (after c (expressions.flatMap (moves ⟨before, some c⟩))).eraseDups rest

/-- The preferred match of the expression at the start of a text is the whole text. -/
def accepts (expression : Regex) (text : String) : Bool :=
  acceptsFrom none [expression] text.toList

end Regex

end TypedRpc
