import TypedRpc.Regex.Atom

/-!
Classes of characters in brackets. Items make a class together; the signs of operations bind all that comes before
them. Where classes are those of ASCII, nothing else may be in a class.
-/

namespace TypedRpc.Regex

namespace Read

/-! ## Items -/

/-- Some items of a class: what they make together, how many they are and how deep they are nested. -/
structure Items where
  chars : CharClass
  count : Nat
  depth : Nat

/-- No items. -/
def Items.none : Items :=
  ⟨.nothing, 0, 0⟩

/-- A further item. -/
def Items.add (items : Items) (chars : CharClass) (depth : Nat) : Items :=
  ⟨if items.count = 0 then chars else .union items.chars chars, items.count + 1, max items.depth depth⟩

/-- The items together; several are nested in what they make. -/
def Items.close (items : Items) : CharClass × Nat :=
  (items.chars, if 2 ≤ items.count then items.depth + 1 else items.depth)

/-- An operation on two classes. -/
abbrev Operation := CharClass → CharClass → CharClass

/-- The operation whose sign comes next. -/
def operation? : List Char → Option Operation
  | '&' :: '&' :: _ => some .intersection
  | '-' :: '-' :: _ => some .difference
  | '~' :: '~' :: _ => some .symmetricDifference
  | _ => none

/-- A class with both cases of what it is made of, if cases do not count. -/
def folded (chars : CharClass) : Read CharClass := do
  let flags ← flags
  if !flags.caseless then return chars
  if !flags.unicode then return .caseless chars
  if chars.hasRange then failure
  return chars

/-- What an operation that is waiting for its second class makes of it. -/
def operate (waiting : Option (Operation × CharClass × Nat)) (second : CharClass × Nat) :
    Read (CharClass × Nat) := do
  match waiting with
  | none => return second
  | some (operation, first, depth) =>
    return (operation (← folded first) (← folded second.1), max depth second.2 + 1)

/-- The class in brackets whose inside is known. -/
def bracketed (negated : Bool) (inside : CharClass × Nat) : Read (CharClass × Nat) := do
  let chars ← folded inside.1
  let chars := if negated then .complement chars else chars
  if !(← flags).unicode && !chars.isAscii then failure
  return (chars, inside.2 + 1)

/-- A class of ASCII with its name, in brackets and colons, and what follows it. -/
def namedClass? : List Char → Option (CharClass × List Char)
  | '[' :: ':' :: rest =>
    let (negated, rest) := match rest with
      | '^' :: rest => (true, rest)
      | rest => (false, rest)
    let (name, rest) := rest.span (· != ':')
    match rest, CharClass.ofName? (String.ofList name) with
    | ':' :: ']' :: rest, some chars => some (if negated then .complement chars else chars, rest)
    | _, _ => none
  | _ => none

/-- A named class, which needs no folding where it is allowed. -/
def named (chars : CharClass) : Read CharClass := do
  let flags ← flags
  let refused := if flags.unicode then flags.caseless else !chars.isAscii
  if refused then failure else return chars

/-- A single character or class in brackets. -/
def itemAtom : Read Atom := do
  match ← next with
  | '\\' => escape
  | c =>
    goTo (← rest).tail
    return .char c false

/-- The class of an atom in brackets. -/
def ofItemAtom : Atom → Read CharClass
  | .char c _ => do
    let n ← codeInBrackets c
    return .range n n
  | .letterClass chars negated => letterClass chars negated
  | _ => failure

/-- A character, a class or a range in brackets. A dash makes no range before the closing bracket or another dash. -/
def item : Read CharClass := do
  let first ← itemAtom
  skipSpace
  if (← next) != '-' then ofItemAtom first
  else
    let ahead := (unspaced (← flags) (← rest).tail).head?
    if ahead == some ']' || ahead == some '-' then ofItemAtom first
    else
      skip
      let second ← itemAtom
      match first, second with
      | .char a _, .char b _ =>
        if b < a then failure
        return .range (← codeInBrackets a) (← codeInBrackets b)
      | _, _ => failure

/-- Dashes, which stand for themselves at the start of a class. -/
def leadingDashes : Nat → Items → Read Items
  | 0, items => return items
  | steps + 1, items => do
    if (← next) != '-' then return items
    skip
    leadingDashes steps (items.add (.single '-') 0)

/-- What opens a class: its bracket, the sign that negates it, dashes, or else a closing bracket. -/
def opening : Read (Bool × Items) := do
  skip
  let negated := (← next) == '^'
  if negated then skip
  let items ← leadingDashes ((← rest).length + 1) .none
  if items.count = 0 && (← next) == ']' then
    skip
    let _ ← next
    return (negated, items.add (.single ']') 0)
  return (negated, items)

mutual

/-- A class in brackets, whose opening bracket comes next. -/
def brackets : Nat → Read (CharClass × Nat)
  | 0 => failure
  | steps + 1 => do
    let (negated, items) ← opening
    inside steps negated none items

/-- What is inside the brackets of a class, up to the closing one. -/
def inside : Nat → Bool → Option (Operation × CharClass × Nat) → Items → Read (CharClass × Nat)
  | 0, _, _, _ => failure
  | steps + 1, negated, waiting, items => do
    skipSpace
    let rest ← rest
    match namedClass? rest with
    | some (found, rest) =>
      goTo rest
      inside steps negated waiting (items.add (← named found) 0)
    | none =>
      match operation? rest with
      | some operation =>
        goTo (rest.drop 2)
        let (first, depth) ← operate waiting items.close
        inside steps negated (some (operation, first, depth)) .none
      | none =>
        match ← next with
        | '[' =>
          let (nested, depth) ← brackets steps
          inside steps negated waiting (items.add nested depth)
        | ']' =>
          goTo rest.tail
          bracketed negated (← operate waiting items.close)
        | _ => inside steps negated waiting (items.add (← item) 0)

end

end Read

end TypedRpc.Regex
