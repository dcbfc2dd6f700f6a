import TypedRpc.Regex.Brackets
import TypedRpc.Text.Alphanumeric

/-!
Reading regular expressions: branches of parts, which are atoms, classes in brackets, groups and repetitions. The
flags of a group count up to its end, in all branches after them.
-/

namespace TypedRpc.Regex

open TypedRpc.Text

/-- A part of an expression, and how deep its parts are nested. -/
structure Part where
  regex : Regex
  depth : Nat

/-- How deep the parts of an expression may be nested. -/
def maxDepth : Nat := 250

namespace Part

/-- A part in front of another. -/
def before (part : Part) (make : Regex → Regex → Regex) (after : Part) : Part :=
  ⟨make part.regex after.regex, max part.depth after.depth⟩

/-- A part that is nested in another. -/
def nested (part : Part) : Part :=
  ⟨part.regex, part.depth + 1⟩

/-- The part that says nothing. -/
def nothing : Part :=
  ⟨.empty, 0⟩

end Part

namespace Read

/-! ## Groups -/

/-- What the opening parenthesis begins. -/
inductive Opened where
  /-- A group, after which the flags are as they were before. -/
  | group (outer : Flags)
  /-- Flags for what follows. -/
  | flags

/-- A character of names of groups. -/
def isNameChar (first : Bool) (c : Char) : Bool :=
  c == '_' || (if first then isAlphabetic c else c == '.' || c == '[' || c == ']' || isAlphanumeric c)

/-- The name of a group, up to the angle bracket after it. -/
def groupName : Read Unit := do
  let (name, after) := (← rest).span (· != '>')
  let fits := match name with
    | [] => false
    | first :: others => isNameChar true first && others.all (isNameChar false)
  let name := String.ofList name
  if after.isEmpty || !fits || (← get).names.contains name then failure
  modify fun s => { s with rest := after.tail, names := name :: s.names }

/-- What comes after an opening parenthesis. Flags alone have to be some. -/
def opened : Read Opened := do
  skip
  let outer ← flags
  let ahead ← rest
  if ["?=", "?!", "?<=", "?<!"].any fun sign => sign.toList.isPrefixOf ahead then failure
  if ← skipText (if ahead.take 2 == ['?', 'P'] then "?P<" else "?<") then
    groupName
    return .group outer
  if !(← skipText "?") then return .group outer
  let (letters, after) := (← rest).span fun c => c != ':' && c != ')'
  match outer.read? true [] letters, after with
  | some inner, end_ :: after =>
    if end_ == ')' && letters.isEmpty then failure
    modify fun s => { s with rest := after, flags := inner }
    return if end_ == ')' then .flags else .group outer
  | _, _ => failure

/-! ## Expressions -/

/-- Parts one after the other, the last first; those that are none are flags, which say nothing by themselves. -/
def inSequence : List (Option Part) → Part
  | [] => .nothing
  | [part] => part.getD .nothing
  | parts => (parts.foldl (fun (after : Part) part => (part.getD .nothing).before .concat after) .nothing).nested

/-- The last of some branches, and those before it, the last first. -/
def asChoice (before : List Part) (last : Part) : Part :=
  if before.isEmpty then last
  else (before.foldl (fun after branch => branch.before .choice after) last).nested

/-- The repetition that a sign asks for. -/
def repeated (sign : Char) (greedy : Bool) (regex : Regex) : Regex :=
  match sign with
  | '?' => .optional greedy regex
  | '*' => .star greedy regex
  | _ => .plus greedy regex

/-- Reads branches up to the end of the expression or of the group, given those before and the parts of the one under
way. A brace would begin a count, which is not allowed for. -/
def branches (inGroup : Bool) : Nat → List Part → List (Option Part) → Read Part
  | 0, _, _ => failure
  | steps + 1, before, parts => do
    skipSpace
    match ← rest with
    | [] => if inGroup then failure else return asChoice before (inSequence parts)
    | c :: after =>
      match c with
      | ')' =>
        if !inGroup then failure
        goTo after
        return asChoice before (inSequence parts)
      | '|' =>
        goTo after
        branches inGroup steps (inSequence parts :: before) []
      | '(' =>
        match ← opened with
        | .flags => branches inGroup steps before (none :: parts)
        | .group outer =>
          let part ← branches true steps [] []
          modify fun s => { s with flags := outer }
          branches inGroup steps before (some part.nested :: parts)
      | '[' =>
        let (found, depth) ← brackets steps
        branches inGroup steps before (some ⟨.char found, depth⟩ :: parts)
      | '?' | '*' | '+' =>
        goTo after
        let marked ← skipText "?"
        match parts with
        | some part :: parts =>
          let regex := repeated c ((← flags).lazy == marked) part.regex
          branches inGroup steps before (some (Part.nested ⟨regex, part.depth⟩) :: parts)
        | _ => failure
      | '\x7b' => failure
      | _ =>
        let regex ← ofAtom (← atom)
        branches inGroup steps before (some ⟨regex, 0⟩ :: parts)

end Read

/-- Reads a regular expression. -/
def parse? (text : String) : Option Regex := do
  let chars := text.toList
  let (part, _) ← (Read.branches false (chars.length + 1) [] []).run ⟨chars, .start, []⟩
  if part.depth ≤ maxDepth then some part.regex else none

end TypedRpc.Regex
