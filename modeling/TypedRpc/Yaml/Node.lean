import TypedRpc.Yaml.Token

/-!
The tree of a YAML text. Reading it from tokens is by descent: a node is a scalar, a collection in a block or in
brackets, or the alias of a node that was given a name before. An alias inside the node that it names stands for
an empty collection of the same kind, since the tree is finite.
-/

namespace TypedRpc.Yaml

/-- A node. -/
inductive Node where
  /-- A scalar with its tag, if it has one. -/
  | scalar (tag : Option String) (style : ScalarStyle) (text : String)
  | sequence (items : List Node)
  | mapping (entries : List (Node × Node))
  deriving Inhabited

/-- A scalar that is not written. -/
def Node.missing : Node :=
  .scalar none .plain ""

/-- A reader of nodes in the middle of a text. -/
structure Composer where
  tokens : List Token
  /-- The nodes that have names, the latest first. -/
  anchors : List (String × Node)
  /-- What the handles of tags stand for. -/
  handles : List (String × String)

/-- Reads nodes. -/
abbrev Compose := StateT Composer (Except Fault)

namespace Composer

/-- The next token. -/
def peek : Compose (Option Token) := do
  return (← get).tokens.head?

/-- Goes over the next token. -/
def skip : Compose Unit :=
  modify fun s => { s with tokens := s.tokens.tail }

/-- Gives a name to a node. -/
def nameNode (name : Option String) (node : Node) : Compose Unit :=
  match name with
  | some name => modify fun s => { s with anchors := (name, node) :: s.anchors }
  | none => pure ()

/-- Reads a collection that may have a name. Inside itself the name stands for an empty collection. -/
def readNamed (name : Option String) (empty : Node) (read : Compose Node) : Compose Node := do
  let outer := (← get).anchors
  nameNode name empty
  let node ← read
  if let some name := name then
    modify fun s =>
      { s with anchors := s.anchors.take (s.anchors.length - outer.length - 1) ++ (name, node) :: outer }
  return node

/-- The next token ends an entry: it is none, or one of the given ones. -/
def atEntryEnd (ends : List Token) : Compose Bool := do
  match ← peek with
  | some token => return ends.contains token
  | none => return false

/-! ## Anchors and tags -/

/-- The tag that a handle and a suffix make. -/
def resolveTag (handle suffix : String) : Compose String := do
  if handle.isEmpty then return suffix
  match (← get).handles.lookup handle with
  | some expansion => return expansion ++ suffix
  | none => throw .badTag

/-- Reads an anchor. -/
def readAnchor : Compose (Option String) := do
  match ← peek with
  | some (.anchor name) =>
    skip
    return some name
  | _ => return none

/-- Reads a tag. -/
def readTag : Compose (Option String) := do
  match ← peek with
  | some (.tag handle suffix) =>
    skip
    return some (← resolveTag handle suffix)
  | _ => return none

/-- Reads an anchor and a tag, which may come in either order. -/
def readProperties : Compose (Option String × Option String) := do
  match ← readAnchor with
  | some name => return (some name, ← readTag)
  | none =>
    match ← readTag with
    | some tag => return (← readAnchor, some tag)
    | none => return (none, none)

/-! ## Nodes -/

/-- What may stand after a mark when a node is left out, in a block mapping. -/
def mappingEnds : List Token := [.key, .value, .blockEnd]

mutual

/-- Reads a node. The exclamation mark alone says nothing as the tag of a scalar that is written. Blocks can begin
only where they are not inside brackets, and a sequence without an indentation of its own only as the key or value
of a mapping. -/
def readNode (steps : Nat) (inBlock unindented : Bool) : Compose Node :=
  match steps with
  | 0 => throw .unexpectedToken
  | steps + 1 => do
    match ← peek with
    | some (.alias name) =>
      skip
      match (← get).anchors.lookup name with
      | some node => return node
      | none => throw .unknownAlias
    | _ =>
      let (name, tag) ← readProperties
      let nothing : Compose Node := do
        if name.isNone && tag.isNone then throw .unexpectedToken
        nameNode name (.scalar tag .plain "")
        return .scalar tag .plain ""
      match ← peek, inBlock with
      | some .blockEntry, _ =>
        if unindented then readNamed name (.sequence []) (do return .sequence (← readUnindented steps))
        else nothing
      | some (.scalar style text), _ =>
        skip
        let node := Node.scalar (tag.filter (· != "!")) style text
        nameNode name node
        return node
      | some .flowSequenceStart, _ =>
        skip
        readNamed name (.sequence []) (do return .sequence (← readFlowItems steps true))
      | some .flowMappingStart, _ =>
        skip
        readNamed name (.mapping []) (do return .mapping (← readFlowEntries steps true))
      | some .blockSequenceStart, true =>
        skip
        readNamed name (.sequence []) (do return .sequence (← readBlockItems steps))
      | some .blockMappingStart, true =>
        skip
        readNamed name (.mapping []) (do return .mapping (← readBlockEntries steps))
      | _, _ => nothing

/-- Reads a node unless one of the given tokens comes next; then it is left out. -/
def readOrMissing (steps : Nat) (inBlock unindented : Bool) (ends : List Token) : Compose Node :=
  match steps with
  | 0 => throw .unexpectedToken
  | steps + 1 => do if ← atEntryEnd ends then return .missing else readNode steps inBlock unindented

/-- Reads the items of a block sequence. -/
def readBlockItems (steps : Nat) : Compose (List Node) :=
  match steps with
  | 0 => throw .unexpectedToken
  | steps + 1 => do
    match ← peek with
    | some .blockEntry =>
      skip
      let item ← readOrMissing steps true false [.blockEntry, .blockEnd]
      return item :: (← readBlockItems steps)
    | some .blockEnd =>
      skip
      return []
    | _ => throw .unexpectedToken

/-- Reads the items of a sequence without an indentation of its own. -/
def readUnindented (steps : Nat) : Compose (List Node) :=
  match steps with
  | 0 => throw .unexpectedToken
  | steps + 1 => do
    match ← peek with
    | some .blockEntry =>
      skip
      let item ← readOrMissing steps true false (.blockEntry :: mappingEnds)
      return item :: (← readUnindented steps)
    | _ => return []

/-- Reads the entries of a block mapping. -/
def readBlockEntries (steps : Nat) : Compose (List (Node × Node)) :=
  match steps with
  | 0 => throw .unexpectedToken
  | steps + 1 => do
    match ← peek with
    | some .key =>
      skip
      let key ← readOrMissing steps true true mappingEnds
      let value ← readValue steps true mappingEnds
      return (key, value) :: (← readBlockEntries steps)
    | some .blockEnd =>
      skip
      return []
    | _ => throw .unexpectedToken

/-- Reads the value of an entry, after its mark; without the mark it is left out. -/
def readValue (steps : Nat) (inBlock : Bool) (ends : List Token) : Compose Node :=
  match steps with
  | 0 => throw .unexpectedToken
  | steps + 1 => do
    match ← peek with
    | some .value =>
      skip
      readOrMissing steps inBlock inBlock ends
    | _ => return .missing

/-- Reads the items of a sequence in brackets. An item may be a mapping of one entry without braces. -/
def readFlowItems (steps : Nat) (first : Bool) : Compose (List Node) :=
  match steps with
  | 0 => throw .unexpectedToken
  | steps + 1 => do
    if (← peek) != some .flowSequenceEnd && !first then
      if (← peek) != some .flowEntry then throw .unexpectedToken
      skip
    match ← peek with
    | some .flowSequenceEnd =>
      skip
      return []
    | some .key =>
      skip
      let ends := [Token.flowEntry, .flowSequenceEnd]
      if ← atEntryEnd (.value :: ends) then
        skip
        let value ← readValue steps false ends
        return .mapping [(.missing, value)] :: (← readFlowItems steps false)
      else
        let key ← readNode steps false false
        let value ← readValue steps false ends
        return .mapping [(key, value)] :: (← readFlowItems steps false)
    | _ =>
      let item ← readNode steps false false
      return item :: (← readFlowItems steps false)

/-- Reads the entries of a mapping in braces. -/
def readFlowEntries (steps : Nat) (first : Bool) : Compose (List (Node × Node)) :=
  match steps with
  | 0 => throw .unexpectedToken
  | steps + 1 => do
    if (← peek) != some .flowMappingEnd && !first then
      if (← peek) != some .flowEntry then throw .unexpectedToken
      skip
    let ends := [Token.flowEntry, .flowMappingEnd]
    match ← peek with
    | some .flowMappingEnd =>
      skip
      return []
    | some .key =>
      skip
      let key ← readOrMissing steps false false (.value :: ends)
      let value ← readValue steps false ends
      return (key, value) :: (← readFlowEntries steps false)
    | _ =>
      let key ← readNode steps false false
      return (key, .missing) :: (← readFlowEntries steps false)

end

/-! ## Documents -/

/-- What the handles of tags stand for in every document. -/
def standardHandles : List (String × String) :=
  [("!", "!"), ("!!", "tag:yaml.org,2002:")]

/-- Reads the directives before a document; `versioned` says whether there was one for the version. -/
def readDirectives : Nat → Bool → List (String × String) → Compose (List (String × String))
  | 0, _, _ => throw .badDirective
  | steps + 1, versioned, given => do
    match ← peek with
    | some (.versionDirective major minor) =>
      if versioned || major != 1 || !(minor == 1 || minor == 2) then throw .badDirective
      skip
      readDirectives steps true given
    | some (.tagDirective handle expansion) =>
      if (given.lookup handle).isSome then throw .badDirective
      skip
      readDirectives steps versioned ((handle, expansion) :: given)
    | _ => return given ++ standardHandles

/-- Goes over the marks that end documents. -/
def skipDocumentEnds : Nat → Compose Unit
  | 0 => pure ()
  | steps + 1 => do
    if (← peek) == some .documentEnd then
      skip
      skipDocumentEnds steps

/-- Reads the node of a document that begins with its mark. -/
def readMarked (steps : Nat) : Compose Node := do
  let handles ← readDirectives steps false []
  modify fun s => { s with handles }
  if (← peek) != some .documentStart then throw .unexpectedToken
  skip
  match ← peek with
  | some .documentStart | some .documentEnd | some (.versionDirective _ _) | some (.tagDirective _ _) | none =>
    return .missing
  | _ => readNode steps true false

/-- Reads the only document of a text, if there is one. -/
def readOnly (steps : Nat) : Compose (Option Node) := do
  match ← peek with
  | none => return none
  | some first =>
    let marked := match first with
      | .documentStart | .versionDirective _ _ | .tagDirective _ _ => true
      | _ => false
    let node ← if marked then readMarked steps else readNode steps true false
    skipDocumentEnds steps
    if (← peek).isSome then throw .moreDocuments
    return some node

end Composer

/-- The tree of the only document of a text; there is none if the text is blank. -/
def parse (text : String) : Except Fault (Option Node) := do
  let tokens ← tokens text
  let (node, _) ← (Composer.readOnly (4 * tokens.length + 8)).run ⟨tokens, [], Composer.standardHandles⟩
  return node

end TypedRpc.Yaml
