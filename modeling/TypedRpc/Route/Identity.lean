import TypedRpc.Text.Blank
import TypedRpc.Text.LetterCase
import TypedRpc.Text.Split

/-!
Identities of handlers. A handler is known by a namespace and a name; `namespace.name` is its key, the last part
of its path and its place in the generated client. Both parts are free of the characters that would make the
key ambiguous, which is part of the type.

An identity can be given outright, read from a key, or resolved from the path of the module that registers the
handler and the path by which the handler is written there.
-/

namespace TypedRpc

open TypedRpc.Text

/-- A character that neither part of an identity may hold. -/
def isSegmentBreak (c : Char) : Bool :=
  c == '.' || c == '/' || isBlank c

/-- A part of an identity: not empty, and free of dots, slashes and blanks. -/
def isSegment (s : String) : Bool :=
  !s.toList.isEmpty && s.toList.all fun c => !isSegmentBreak c

/-- The namespace and the name of a handler. -/
structure RouteIdentity where
  /-- The group that the handler belongs to. -/
  ns : String
  /-- The handler's name in its group. -/
  name : String
  ns_isSegment : isSegment ns = true
  name_isSegment : isSegment name = true
  deriving DecidableEq

/-- Why there is no identity. -/
inductive IdentityError where
  /-- A part is empty or holds a character that parts may not hold. -/
  | invalidSegment (segment : String)
  /-- No namespace and name can be told apart. -/
  | unresolvable (identity : String)
  deriving DecidableEq, Repr

/-- The text of an identity error. -/
def IdentityError.message : IdentityError → String
  | .invalidSegment segment =>
    s!"invalid route segment '{segment}': segments must be non-empty and contain no '.', '/' or whitespace"
  | .unresolvable identity =>
    s!"cannot resolve handler identity '{identity}' into a namespace and a name"

namespace RouteIdentity

/-- The identity of two given parts; the namespace is checked first. -/
def ofParts (ns name : String) : Except IdentityError RouteIdentity :=
  if hns : isSegment ns = true then
    if hname : isSegment name = true then .ok ⟨ns, name, hns, hname⟩
    else .error (.invalidSegment name)
  else .error (.invalidSegment ns)

/-- The two parts with a dot between them. -/
def key (identity : RouteIdentity) : String :=
  identity.ns ++ "." ++ identity.name

/-- Reads a key: what stands before the first dot and what stands after it. -/
def ofKey (s : String) : Except IdentityError RouteIdentity :=
  match splitFirst '.' s.toList with
  | some (ns, name) => ofParts (String.ofList ns) (String.ofList name)
  | none => .error (.unresolvable s)

/-! ## Resolving paths -/

/-- A character that a path may hold and an identity drops: punctuation of references, and blanks. -/
def isDropped (c : Char) : Bool :=
  c == '&' || c == '*' || c == '(' || c == ')' || isBlank c

/-- A segment that marks a place without a name, such as a closure. -/
def isMarker (segment : List Char) : Bool :=
  segment.take 2 == ['\x7b', '\x7b']

/-- The segments of a path without markers, dropped characters and empty segments. -/
def pathSegments (path : String) : List (List Char) :=
  (((splitPairs ':' path.toList).flatMap (splitWhere fun c => c == '.' || c == '/')).filterMap fun segment =>
    if isMarker segment then none else some (segment.filter fun c => !isDropped c)).filter
      fun segment => !segment.isEmpty

/-- Goes one segment further from a module path: `crate` back to the root, `self` nowhere, `super` up. -/
def follow (path : List (List Char)) (segment : List Char) : List (List Char) :=
  if segment = "crate".toList then path.take 1
  else if segment = "self".toList then path
  else if segment = "super".toList then path.dropLast
  else path ++ [segment]

/-- The absolute path of a handler written in a module. -/
def absolutePath (modulePath itemPath : String) : List (List Char) :=
  (pathSegments itemPath).foldl follow (pathSegments modulePath)

/-- The segment begins with an uppercase letter, as the names of types do. -/
def startsUppercase : List Char → Bool
  | [] => false
  | first :: _ => isUppercase first

/-- Splits the segments before the last one, read backwards, at the first that is no type: the types, in
reading order and in front of what is given, and the module segment. -/
def splitTypes (name : List (List Char)) : List (List Char) → Option (List Char × List (List Char))
  | [] => none
  | segment :: before =>
    if startsUppercase segment then splitTypes (segment :: name) before else some (segment, name)

/-- The module and the name segments of an absolute path: the name is the last segment with the types right
before it, and the module is what comes before those. -/
def moduleAndName (path : List (List Char)) : Option (List Char × List (List Char)) :=
  match path.reverse with
  | [] => none
  | last :: before => splitTypes [last] before

/-- What a failed resolution names: the whole path as it was given. -/
def givenPath (modulePath itemPath : String) : String :=
  if modulePath.isEmpty then itemPath else modulePath ++ "::" ++ itemPath

/-- The identity of the handler written as `itemPath` in the module `modulePath`. -/
def resolve (modulePath itemPath : String) : Except IdentityError RouteIdentity :=
  match moduleAndName (absolutePath modulePath itemPath) with
  | none => .error (.unresolvable (givenPath modulePath itemPath))
  | some (ns, name) => ofParts (String.ofList ns) (join "_" (name.map String.ofList))

end RouteIdentity

end TypedRpc
