import TypedRpc.TypeScript.TypeExpr
import TypedRpc.TypeScript.TypeName

/-!
The state of a type compiler: which qualified name has which TypeScript name, and which definitions are
complete. Names are handed out once and never taken back; `names` and `owners` are the two directions of one
table. `processing` holds the keys whose fields are being compiled right now and `inlineDepth` counts the
composites without a name around the current point.
-/

namespace TypedRpc

open TypedRpc.Text TypedRpc.TypeScript

/-- What a compiler knows in the middle of a run. -/
structure Compiler where
  /-- The TypeScript name of each key. -/
  names : List (String × String)
  /-- The key to which each TypeScript name was given. -/
  owners : List (String × String)
  /-- The complete definitions, in the order of their completion. -/
  definitions : List Definition
  /-- The keys whose fields are being compiled. -/
  processing : List String
  /-- The composites without a name that are being compiled. -/
  inlineDepth : Nat

namespace Compiler

/-- A compiler that has seen nothing. -/
def empty : Compiler :=
  ⟨[], [], [], [], 0⟩

instance : Inhabited Compiler := ⟨empty⟩

/-! ## Names -/

/-- Nobody owns the name. -/
def isFree (c : Compiler) (name : String) : Bool :=
  (c.owners.lookup name).isNone

/-- The names made of the segments alone, shortest first. -/
def scopedNames (segments : List String) : List String :=
  (List.range segments.length).filterMap (scopedName? segments)

/-- The name made of all segments with the number `i + 2` at its end. -/
def numberedName (segments : List String) (i : Nat) : String :=
  join "_" segments ++ "_" ++ toString (i + 2)

/-- The first free name: a scoped one, or else a numbered one. There are more numbered names than owned ones
among those tried, so the last resort is never reached. -/
def freshName (c : Compiler) (segments : List String) : String :=
  match (scopedNames segments).find? c.isFree with
  | some name => name
  | none =>
    (((List.range (c.owners.length + 1)).map (numberedName segments)).find? c.isFree).getD
      (join "_" segments)

/-- Records that a key has a name. -/
def give (c : Compiler) (key name : String) : Compiler :=
  { c with names := c.names ++ [(key, name)], owners := c.owners ++ [(name, key)] }

/-- The name of a path of segments, given out now if it is met for the first time. -/
def assignName (c : Compiler) (segments : List String) : String × Compiler :=
  let key := keyOf segments
  match c.names.lookup key with
  | some name => (name, c)
  | none =>
    let name := c.freshName segments
    (name, c.give key name)

/-! ## Definitions -/

/-- The definition of a name, once it is complete. -/
def definition? (c : Compiler) (name : String) : Option Definition :=
  c.definitions.find? (·.name == name)

/-- Adds a complete definition at the end, unless the name has one. -/
def define (c : Compiler) (definition : Definition) : Compiler :=
  match c.definition? definition.name with
  | some _ => c
  | none => { c with definitions := c.definitions ++ [definition] }

/-- Marks a key as being compiled. -/
def enter (c : Compiler) (key : String) : Compiler :=
  { c with processing := key :: c.processing }

/-- Takes the mark of a key away. -/
def leave (c : Compiler) (key : String) : Compiler :=
  { c with processing := c.processing.erase key }

end Compiler

end TypedRpc
