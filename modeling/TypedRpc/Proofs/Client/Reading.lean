import Mathlib.Data.List.Basic
import TypedRpc.Client.Print
import TypedRpc.Proofs.Json.StringLiteral
import TypedRpc.Proofs.Route.Identity
import TypedRpc.Proofs.TypeScript.PascalCase
import TypedRpc.Proofs.TypeScript.PropertyName

/-!
# Reading client modules

What a client module offers can be read off its text: the types of the methods from the interface, and what a
method does from the object that the module builds. The readers cut the text into lines and know the two places
by the lines around them. Main statements: the types and the calls of a client's methods are read back from its
text (`typesOf_print`, `callsOf_print`).
-/

namespace TypedRpc.Client

open TypedRpc.Text TypedRpc.TypeScript

/-! ## Readers -/

/-- What a method of the object does: the key that it sends, and whether it takes an argument. -/
structure Call where
  name : String
  key : String
  takesArgument : Bool
  deriving DecidableEq

/-- The lines of a text. -/
def linesOf (text : List Char) : List (List Char) :=
  splitWhere (· == '\n') text

/-- The lines between the last line `opening` and the first line `closing` after it. -/
def between (opening closing : List Char) (lines : List (List Char)) : List (List Char) :=
  (lines.reverse.takeWhile (· ≠ opening)).reverse.takeWhile (· ≠ closing)

/-- The property name that stands behind the indentation of a line, and the text behind it. -/
def readName (indent line : List Char) : Option (String × List Char) := do
  let (name, rest) ← PropertyName.read (← line.dropPrefix? indent)
  return (String.ofList name, rest)

/-- The namespace that the first line of a group names. -/
def readHeader (indent line : List Char) : Option String := do
  let (ns, rest) ← readName indent line
  if rest = ": \x7b".toList then some ns else none

/-- The groups in the lines, of which `group` has been begun. -/
def readGroups {α : Type} (indent closing : List Char) (readEntry : List Char → Option α) :
    Option (String × List α) → List (List Char) → Option (List (String × List α))
  | none, [] => some []
  | some _, [] => none
  | none, line :: rest =>
    (readHeader indent line).bind fun ns => readGroups indent closing readEntry (some (ns, [])) rest
  | some (ns, entries), line :: rest =>
    if line = closing then (readGroups indent closing readEntry none rest).map ((ns, entries) :: ·)
    else (readEntry line).bind fun entry =>
      readGroups indent closing readEntry (some (ns, entries ++ [entry])) rest

/-- A line of the interface: the name of a method and its type. -/
def readType (line : List Char) : Option (String × String) := do
  let (name, rest) ← readName "    ".toList line
  let type ← rest.dropPrefix? ": ".toList
  return (name, String.ofList type)

/-- The JSON string in front of `ending`, which is all there is. -/
def readTarget (ending text : List Char) : Option String := do
  let (key, rest) ← Json.readLiteral (Utf8.encode text)
  if rest = Utf8.encode ending then some key else none

/-- A line of the object. -/
def readCall (line : List Char) : Option Call := do
  let (name, rest) ← readName "      ".toList line
  match rest.dropPrefix? ": (params) => doFetch(".toList with
  | some rest => return ⟨name, ← readTarget ", params),".toList rest, true⟩
  | none =>
    let rest ← rest.dropPrefix? ": () => doFetch(".toList
    return ⟨name, ← readTarget "),".toList rest, false⟩

/-- The methods in the interface of a client module, by namespace. -/
def typesOf (text : String) : Option (List (String × List (String × String))) :=
  readGroups "  ".toList "  \x7d".toList readType none
    (between "export interface ApiClient \x7b".toList "\x7d".toList (linesOf text.toList))

/-- The methods of the object that a client module builds, by namespace. -/
def callsOf (text : String) : Option (List (String × List Call)) :=
  readGroups "    ".toList "    \x7d,".toList readCall none
    (between "  return \x7b".toList "  \x7d".toList (linesOf text.toList))

/-! ## Lines -/

/-- Lines that hold no line break are the lines of their text. -/
theorem flatMap_linesOf {lines : List (List Char)} (h : ∀ line ∈ lines, '\n' ∉ line) :
    lines.flatMap linesOf = lines :=
  flatMap_splitWhere fun line hline c hc => by
    simp only [beq_eq_false_iff_ne, ne_eq]
    exact fun heq => h line hline (heq ▸ hc)

theorem between_append {opening closing : List Char} {inner : List (List Char)} (before after : List (List Char))
    (hne : closing ≠ opening) (hinner : ∀ line ∈ inner, line ≠ opening ∧ line ≠ closing)
    (hafter : ∀ line ∈ after, line ≠ opening) :
    between opening closing (before ++ opening :: (inner ++ closing :: after)) = inner := by
  have hreverse : (before ++ opening :: (inner ++ closing :: after)).reverse =
      (inner ++ closing :: after).reverse ++ opening :: before.reverse := by
    simp
  have hlast : ∀ line ∈ (inner ++ closing :: after).reverse, decide (line ≠ opening) = true := by
    intro line hline
    simp only [List.mem_reverse, List.mem_append, List.mem_cons] at hline
    rcases hline with h | rfl | h
    · simpa using (hinner line h).1
    · simpa using hne
    · simpa using hafter line h
  rw [between, hreverse, List.takeWhile_append_of_pos hlast, List.takeWhile_cons_of_neg (by simp),
    List.append_nil, List.reverse_reverse,
    List.takeWhile_append_of_pos fun line hline => by simpa using (hinner line hline).2,
    List.takeWhile_cons_of_neg (by simp), List.append_nil]

/-! ## What is written on a line -/

theorem dropPrefix?_append (beginning rest : List Char) :
    (beginning ++ rest).dropPrefix? beginning = some rest :=
  List.dropPrefix?_eq_some_iff.mpr ⟨beginning, rfl, by simp⟩

theorem not_lineBreak_of_isSegment {s : String} (h : isSegment s = true) : ∀ c ∈ s.toList, c ≠ '\n' ∧ c ≠ '\r' := by
  intro c hc
  have hbreak := not_isSegmentBreak_of_mem h hc
  constructor <;> rintro rfl <;> revert hbreak <;> decide

/-- The name of a segment is read, and what stands behind it if it begins with a colon. -/
theorem readName_propertyName {s : String} (h : isSegment s = true) (indent rest : List Char) :
    readName indent (indent ++ ((propertyName s).toList ++ ':' :: rest)) = some (s, ':' :: rest) := by
  have hread : PropertyName.read ((propertyName s).toList ++ ':' :: rest) = some (s.toList, ':' :: rest) := by
    rw [propertyName, String.toList_ofList]
    exact PropertyName.read_spell (not_lineBreak_of_isSegment h) (by simp [isIdentifierPart])
  rw [readName, dropPrefix?_append]
  simp only [Option.bind_eq_bind, Option.bind_some, hread, String.ofList_toList]
  rfl

theorem newline_notMem_propertyName {s : String} (h : isSegment s = true) : '\n' ∉ (propertyName s).toList := by
  have hname : '\n' ∉ s.toList := fun hmem => (not_lineBreak_of_isSegment h _ hmem).1 rfl
  rw [propertyName, String.toList_ofList, PropertyName.spell]
  split
  · exact hname
  · simp only [List.cons_append, List.mem_cons, List.mem_append, List.mem_flatMap, List.not_mem_nil, or_false]
    rintro (h | ⟨c, hc, hescape⟩ | h)
    · exact absurd h (by decide)
    · unfold PropertyName.escapeChar at hescape
      split at hescape
      · exact absurd hescape (by decide)
      · split at hescape
        · exact absurd hescape (by decide)
        · exact hname (List.mem_singleton.mp hescape ▸ hc)
    · exact absurd h (by decide)

theorem newline_notMem_stringLiteral (s : String) : '\n' ∉ (Json.stringLiteral s).toList := by
  have hcontrol : ∀ n < 0x20, '\n' ∉ Json.controlEscape (Char.ofNat n) := by
    decide +kernel
  rw [Json.stringLiteral, String.toList_ofList]
  simp only [List.cons_append, List.mem_cons, List.mem_append, List.mem_flatMap, List.not_mem_nil, or_false]
  rintro (h | ⟨c, -, hescape⟩ | h)
  · exact absurd h (by decide)
  · rcases Json.escapeChar_cases c with ⟨heq, -, -, hlt⟩ | ⟨letter, heq, -, hsimple⟩ | ⟨hlt, heq⟩ <;>
      rw [heq] at hescape
    · rw [← List.mem_singleton.mp hescape] at hlt
      exact absurd (by decide) hlt
    · simp only [List.mem_cons, List.not_mem_nil, or_false] at hescape
      rcases hescape with h | rfl
      · exact absurd h (by decide)
      · exact absurd hsimple (by simp [show Json.Reader.simpleEscape? (Json.Reader.code '\n') = none from rfl])
    · have := hcontrol c.toNat hlt
      rw [Char.ofNat_toNat] at this
      exact this hescape
  · exact absurd h (by decide)

/-! ## Groups -/

section

variable {α : Type} {indent closing : List Char} {readEntry : List Char → Option α}
  {entryLine : Method → String} {view : Method → α}

/-- The lines of a group. -/
def groupLines (indent closing : List Char) (entryLine : Method → String) (group : Group) : List (List Char) :=
  (indent ++ ((propertyName group.ns).toList ++ ": \x7b".toList)) ::
    (group.methods.map fun method => (entryLine method).toList) ++ [closing]

theorem readHeader_header {ns : String} (h : isSegment ns = true) :
    readHeader indent (indent ++ ((propertyName ns).toList ++ ": \x7b".toList)) = some ns := by
  rw [readHeader, show (": \x7b".toList) = ':' :: " \x7b".toList from rfl, readName_propertyName h]
  simp only [Option.bind_eq_bind, Option.bind_some, if_true]

theorem readGroups_entries (methods : List Method) (ns : String) (entries : List α) (rest : List (List Char))
    (hentry : ∀ method ∈ methods, readEntry (entryLine method).toList = some (view method) ∧
      (entryLine method).toList ≠ closing) :
    readGroups indent closing readEntry (some (ns, entries))
        ((methods.map fun method => (entryLine method).toList) ++ closing :: rest) =
      (readGroups indent closing readEntry none rest).map ((ns, entries ++ methods.map view) :: ·) := by
  induction methods generalizing entries with
  | nil => simp [readGroups]
  | cons method methods ih =>
    obtain ⟨hread, hne⟩ := hentry method List.mem_cons_self
    rw [List.map_cons, List.cons_append, readGroups, if_neg hne, hread, Option.bind_some,
      ih _ fun other hother => hentry other (List.mem_cons_of_mem _ hother)]
    simp

/-- Groups are read back from their lines. -/
theorem readGroups_groupLines {groups : List Group} (hns : ∀ group ∈ groups, isSegment group.ns = true)
    (hentry : ∀ group ∈ groups, ∀ method ∈ group.methods,
      readEntry (entryLine method).toList = some (view method) ∧ (entryLine method).toList ≠ closing) :
    readGroups indent closing readEntry none (groups.flatMap (groupLines indent closing entryLine)) =
      some (groups.map fun group => (group.ns, group.methods.map view)) := by
  induction groups with
  | nil => rfl
  | cons group groups ih =>
    have hrest := ih (fun other hother => hns other (List.mem_cons_of_mem _ hother))
      (fun other hother => hentry other (List.mem_cons_of_mem _ hother))
    rw [List.flatMap_cons, groupLines, List.cons_append, List.cons_append, List.append_assoc, readGroups,
      readHeader_header (hns group List.mem_cons_self), Option.bind_some, List.singleton_append,
      readGroups_entries group.methods group.ns [] _ (hentry group List.mem_cons_self), hrest]
    simp

/-- The lines of groups begin as their headings do. -/
theorem exists_of_mem_groupLines {groups : List Group} {line : List Char} (close : List Char)
    (hclosing : closing = indent ++ close)
    (hentry : ∀ method, ∃ rest, (entryLine method).toList = indent ++ rest)
    (hline : line ∈ groups.flatMap (groupLines indent closing entryLine)) : ∃ rest, line = indent ++ rest := by
  obtain ⟨group, -, hline⟩ := List.mem_flatMap.mp hline
  simp only [groupLines, List.mem_append, List.mem_cons, List.mem_map, List.not_mem_nil, or_false] at hline
  rcases hline with (rfl | ⟨method, -, rfl⟩) | rfl
  · exact ⟨_, rfl⟩
  · exact hentry method
  · exact ⟨close, hclosing⟩

/-- The lines of groups hold no line break if those of the methods do not. -/
theorem newline_notMem_groupLines {groups : List Group} (hindent : '\n' ∉ indent) (hclosing : '\n' ∉ closing)
    (hns : ∀ group ∈ groups, isSegment group.ns = true)
    (hentry : ∀ group ∈ groups, ∀ method ∈ group.methods, '\n' ∉ (entryLine method).toList) :
    ∀ line ∈ groups.flatMap (groupLines indent closing entryLine), '\n' ∉ line := by
  intro line hline
  obtain ⟨group, hgroup, hline⟩ := List.mem_flatMap.mp hline
  simp only [groupLines, List.mem_append, List.mem_cons, List.mem_map, List.not_mem_nil, or_false] at hline
  rcases hline with (rfl | ⟨method, hmethod, rfl⟩) | rfl
  · have hname := newline_notMem_propertyName (hns group hgroup)
    simp only [List.mem_append, not_or]
    exact ⟨hindent, hname, by decide⟩
  · exact hentry group hgroup method hmethod
  · exact hclosing

end

/-! ## The interface and the object -/

/-- The names in the groups are segments, and the stems are words of alias names. -/
structure WellNamed (groups : List Group) : Prop where
  ns : ∀ group ∈ groups, isSegment group.ns = true
  name : ∀ group ∈ groups, ∀ method ∈ group.methods, isSegment method.name = true
  stem : ∀ group ∈ groups, ∀ method ∈ group.methods, '\n' ∉ method.stem.toList

/-- The line of a method in the interface. -/
def typeLine (method : Method) : String :=
  "    " ++ propertyName method.name ++ ": " ++ method.stem ++ "Handler"

theorem toList_interfaceLines (group : Group) :
    (interfaceLines group).map String.toList = groupLines "  ".toList "  \x7d".toList typeLine group := by
  simp [interfaceLines, groupLines, typeLine, Function.comp_def]

theorem toList_objectLines (group : Group) :
    (objectLines group).map String.toList = groupLines "    ".toList "    \x7d,".toList methodLine group := by
  simp [objectLines, groupLines, Function.comp_def]

theorem readType_typeLine {method : Method} (h : isSegment method.name = true) :
    readType (typeLine method).toList = some (method.name, method.stem ++ "Handler") := by
  have hline : (typeLine method).toList = "    ".toList ++ ((propertyName method.name).toList ++
      ':' :: (" ".toList ++ (method.stem ++ "Handler").toList)) := by
    simp [typeLine]
  rw [readType, hline, readName_propertyName h]
  simp only [Option.bind_eq_bind, Option.bind_some]
  rw [← List.cons_append, show ':' :: " ".toList = ": ".toList from rfl, dropPrefix?_append, Option.bind_some,
    String.ofList_toList]
  rfl

theorem readTarget_stringLiteral (key : String) (ending : List Char) :
    readTarget ending ((Json.stringLiteral key).toList ++ ending) = some key := by
  rw [readTarget, Utf8.encode, List.flatMap_append, ← Utf8.encode, Json.readLiteral_stringLiteral]
  simp [Utf8.encode]

theorem readCall_methodLine {method : Method} (h : isSegment method.name = true) :
    readCall (methodLine method).toList = some ⟨method.name, method.key, method.takesInput⟩ := by
  cases htakes : method.takesInput with
  | true =>
    have hline : (methodLine method).toList = "      ".toList ++ ((propertyName method.name).toList ++
        ':' :: (" (params) => doFetch(".toList ++
          ((Json.stringLiteral method.key).toList ++ ", params),".toList))) := by
      simp [methodLine, htakes]
    rw [readCall, hline, readName_propertyName h]
    simp only [Option.bind_eq_bind, Option.bind_some]
    rw [← List.cons_append, show ':' :: " (params) => doFetch(".toList = ": (params) => doFetch(".toList from rfl,
      dropPrefix?_append]
    simp only [readTarget_stringLiteral, Option.bind_some]
    rfl
  | false =>
    have hline : (methodLine method).toList = "      ".toList ++ ((propertyName method.name).toList ++
        ':' :: (" () => doFetch(".toList ++ ((Json.stringLiteral method.key).toList ++ "),".toList))) := by
      simp [methodLine, htakes]
    rw [readCall, hline, readName_propertyName h]
    simp only [Option.bind_eq_bind, Option.bind_some]
    -- a line without an argument does not begin as one with an argument
    rw [← List.cons_append, show ':' :: " () => doFetch(".toList = ": () => doFetch(".toList from rfl,
      show ∀ rest, (": () => doFetch(".toList ++ rest).dropPrefix? ": (params) => doFetch(".toList = none
        from fun _ => rfl]
    simp only [dropPrefix?_append, readTarget_stringLiteral, Option.bind_some]
    rfl

/-! ## The whole text -/

/-- The lines between the interface and the object of a client module. -/
def middleLines : List (List Char) :=
  ("" :: transport).map String.toList

theorem newline_notMem_ofList {line : List Char} (h : line.all (· != '\n') = true) :
    '\n' ∉ (String.ofList line).toList := by
  intro hmem
  rw [String.toList_ofList] at hmem
  simpa using List.all_eq_true.mp h _ hmem

theorem ofList_ne_ofList {line other : List Char} (h : (line == other) = false) :
    (String.ofList line).toList ≠ (String.ofList other).toList := by
  rw [String.toList_ofList, String.toList_ofList]
  simpa using h

theorem newline_notMem_middleLines : ∀ line ∈ middleLines, '\n' ∉ line := by
  simp only [middleLines, transport, List.map_cons, List.map_nil, List.forall_mem_cons]
  and_intros
  all_goals first | exact newline_notMem_ofList rfl | exact nofun

theorem ne_of_mem_middleLines : ∀ line ∈ middleLines, line ≠ "export interface ApiClient \x7b".toList := by
  simp only [middleLines, transport, List.map_cons, List.map_nil, List.forall_mem_cons]
  and_intros
  all_goals first | exact ofList_ne_ofList rfl | exact nofun

/-- The lines of the interface, without its head. -/
def typeLines (groups : List Group) : List (List Char) :=
  groups.flatMap (groupLines "  ".toList "  \x7d".toList typeLine)

/-- The lines of the object. -/
def callLines (groups : List Group) : List (List Char) :=
  groups.flatMap (groupLines "    ".toList "    \x7d,".toList methodLine)

/-- The lines of a client module from the interface on. -/
def lastLines (groups : List Group) : List (List Char) :=
  "export interface ApiClient \x7b".toList :: (typeLines groups ++ "\x7d".toList ::
    (middleLines ++ "  return \x7b".toList :: (callLines groups ++ ["  \x7d".toList, "\x7d".toList])))

theorem newline_notMem_typeLines {groups : List Group} (h : WellNamed groups) :
    ∀ line ∈ typeLines groups, '\n' ∉ line := by
  refine newline_notMem_groupLines (by decide) (by decide) h.ns fun group hgroup method hmethod => ?_
  have hname := newline_notMem_propertyName (h.name group hgroup method hmethod)
  have hstem := h.stem group hgroup method hmethod
  simp [typeLine, hname, hstem]

theorem newline_notMem_callLines {groups : List Group} (h : WellNamed groups) :
    ∀ line ∈ callLines groups, '\n' ∉ line := by
  refine newline_notMem_groupLines (by decide) (by decide) h.ns fun group hgroup method hmethod => ?_
  have hname := newline_notMem_propertyName (h.name group hgroup method hmethod)
  have hkey := newline_notMem_stringLiteral method.key
  cases htakes : method.takesInput <;> simp [methodLine, htakes, hname, hkey]

theorem newline_notMem_lastLines {groups : List Group} (h : WellNamed groups) :
    ∀ line ∈ lastLines groups, '\n' ∉ line := by
  simp only [lastLines, List.mem_cons, List.mem_append, List.not_mem_nil, or_false]
  rintro line (rfl | hline | rfl | hline | rfl | hline | rfl | rfl)
  · decide
  · exact newline_notMem_typeLines h line hline
  · decide
  · exact newline_notMem_middleLines line hline
  · decide
  · exact newline_notMem_callLines h line hline
  · decide
  · decide

/-- The lines of a client module are those that were joined, and no name in the groups breaks one. What stands
before the interface is left open. -/
theorem exists_linesOf_print {client : Client} (h : WellNamed client.groups) :
    ∃ before, linesOf client.print.toList = before ++ lastLines client.groups := by
  have hjoined : linesOf client.print.toList = (client.lines.map String.toList).flatMap linesOf := by
    rw [Client.print, join, String.toList_intercalate]
    exact splitWhere_intercalate rfl (by simp [Client.lines, heading])
  have hsplit : client.lines.map String.toList = (heading ++ client.definitions.flatMap definitionLines ++
      client.aliases.flatMap aliasLines ++ [""]).map String.toList ++ lastLines client.groups := by
    simp only [Client.lines, lastLines, typeLines, callLines, middleLines, List.map_append, List.map_flatMap,
      toList_interfaceLines, toList_objectLines, List.map_cons, List.map_nil, List.append_assoc, List.cons_append,
      List.nil_append]
  exact ⟨_, by rw [hjoined, hsplit, List.flatMap_append, flatMap_linesOf (newline_notMem_lastLines h)]⟩

theorem exists_of_mem_typeLines {groups : List Group} {line : List Char} (h : line ∈ typeLines groups) :
    ∃ rest, line = "  ".toList ++ rest :=
  exists_of_mem_groupLines "\x7d".toList rfl
    (fun method => ⟨(typeLine method).toList.drop 2, by simp [typeLine]⟩) h

theorem exists_of_mem_callLines {groups : List Group} {line : List Char} (h : line ∈ callLines groups) :
    ∃ rest, line = "    ".toList ++ rest :=
  exists_of_mem_groupLines "\x7d,".toList rfl
    (fun method => ⟨(methodLine method).toList.drop 4, by simp [methodLine]⟩) h

/-- The types of the methods are read back from the interface. -/
theorem typesOf_print {client : Client} (h : WellNamed client.groups) :
    typesOf client.print = some (client.groups.map fun group =>
      (group.ns, group.methods.map fun method => (method.name, method.stem ++ "Handler"))) := by
  obtain ⟨before, hlines⟩ := exists_linesOf_print h
  rw [typesOf, hlines, lastLines, between_append before _ (by decide)]
  · refine readGroups_groupLines h.ns fun group hgroup method hmethod => ⟨?_, ?_⟩
    · exact readType_typeLine (h.name group hgroup method hmethod)
    · simp [typeLine]
  · intro line hline
    obtain ⟨rest, rfl⟩ := exists_of_mem_typeLines hline
    simp
  · simp only [List.mem_cons, List.mem_append, List.not_mem_nil, or_false]
    rintro line (hline | rfl | hline | rfl | rfl)
    · exact ne_of_mem_middleLines line hline
    · decide
    · obtain ⟨rest, rfl⟩ := exists_of_mem_callLines hline
      simp
    · decide
    · decide

/-- What the methods do is read back from the object. -/
theorem callsOf_print {client : Client} (h : WellNamed client.groups) :
    callsOf client.print = some (client.groups.map fun group =>
      (group.ns, group.methods.map fun method => ⟨method.name, method.key, method.takesInput⟩)) := by
  obtain ⟨before, hlines⟩ := exists_linesOf_print h
  rw [callsOf, hlines, lastLines, ← List.cons_append, ← List.append_assoc, ← List.cons_append, ← List.append_assoc,
    between_append _ _ (by decide)]
  · refine readGroups_groupLines h.ns fun group hgroup method hmethod => ⟨?_, ?_⟩
    · exact readCall_methodLine (h.name group hgroup method hmethod)
    · simp [methodLine]
  · intro line hline
    obtain ⟨rest, rfl⟩ := exists_of_mem_callLines hline
    simp
  · decide

end TypedRpc.Client
