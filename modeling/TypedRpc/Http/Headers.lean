/-!
Headers of a message: names and values in order. Two names are the same when they differ in the case of ASCII
letters only. A look-up finds the first header of a name; setting one removes all headers of the name and adds
the new one at the end.
-/

namespace TypedRpc.Http

/-- Headers in the order in which they are sent. -/
abbrev Headers := List (String × String)

/-- A name without regard to the case of ASCII letters. -/
def foldName (name : String) : List Char :=
  name.toList.map Char.toLower

/-- The names are the same header. -/
def sameName (a b : String) : Bool :=
  foldName a == foldName b

namespace Headers

/-- The value of the first header of a name. -/
def get? (headers : Headers) (name : String) : Option String :=
  (headers.find? fun header => sameName header.1 name).map (·.2)

/-- The headers with one header of the name, at the end. -/
def set (headers : Headers) (name value : String) : Headers :=
  headers.filter (fun header => !sameName header.1 name) ++ [(name, value)]

end Headers

end TypedRpc.Http
