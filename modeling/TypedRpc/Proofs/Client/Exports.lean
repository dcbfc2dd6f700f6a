import TypedRpc.Client.Print
import TypedRpc.Proofs.Client.Compiled
import TypedRpc.Proofs.Compiler.Names
import TypedRpc.Proofs.TypeScript.PascalCase

/-!
# Exported names

A client exports the types of the envelope, its definitions and the aliases of the handlers. The names of the three
kinds cannot meet, and aliases are told apart by their stems. The stem of a handler drops what separates the words
of its key, so that different keys can have one stem.
-/

namespace TypedRpc.Client

open TypedRpc.Text TypedRpc.TypeScript

/-! ## Exported types -/

/-- What the names end with that are exported for handlers. -/
def suffixes : List String :=
  ["Input", "Output", "Handler"]

/-- The types that are exported for a handler. -/
def Alias.exports (entry : Alias) : List String :=
  (if entry.takesInput then suffixes else suffixes.tail).map (entry.stem ++ ·)

/-- The types that a client exports, in the order of its text. -/
def exports (client : Client) : List String :=
  ["ApiError", "ApiResponse"] ++ client.definitions.map (·.name) ++ client.aliases.flatMap Alias.exports ++
    ["ApiClient"]

/-- The line exports some type. -/
def exportsType (line : String) : Bool :=
  "export type ".toList.isPrefixOf line.toList || "export interface ".toList.isPrefixOf line.toList

/-- The line exports the type of this name, behind which a space or a parameter stands. -/
def Exports (line name : String) : Prop :=
  ∃ rest, line = "export type " ++ name ++ " " ++ rest ∨ line = "export type " ++ name ++ "<" ++ rest ∨
    line = "export interface " ++ name ++ " " ++ rest

theorem filter_heading :
    heading.filter exportsType = ["export interface ApiError \x7b", "export type ApiResponse<T> ="] := by
  decide +kernel

theorem print_eq (definition : Definition) :
    ∃ rest, definition.print = "type " ++ definition.name ++ " " ++ rest := by
  unfold Definition.print
  split
  · exact ⟨"= \x7b\x7d", by simp [String.append_assoc]⟩
  · exact ⟨"= \x7b\n" ++ join "\n" ((Member.printList definition.members).map ("  " ++ ·)) ++ "\n\x7d", by
      simp [String.append_assoc, ← String.toList_inj]⟩

theorem forall₂_definitionLines (definition : Definition) :
    List.Forall₂ Exports ((definitionLines definition).filter exportsType) [definition.name] := by
  obtain ⟨rest, hprint⟩ := print_eq definition
  have hline : exportsType ("export " ++ definition.print) = true := by
    simp [hprint, exportsType]
  have hempty : exportsType "" = false := by
    decide
  rw [definitionLines, List.filter_cons_of_neg (by simp [hempty]), List.filter_cons_of_pos hline, List.filter_nil]
  exact .cons ⟨rest, .inl (by simp [hprint, ← String.toList_inj])⟩ .nil

theorem forall₂_aliasLines (entry : Alias) :
    List.Forall₂ Exports ((aliasLines entry).filter exportsType) entry.exports := by
  have hall : (aliasLines entry).filter exportsType = (aliasLines entry).tail := by
    cases htakes : entry.takesInput <;> simp [aliasLines, htakes, exportsType]
  rw [hall, aliasLines, Alias.exports]
  have houtput : Exports ("export type " ++ entry.stem ++ "Output = " ++ entry.output.print)
      (entry.stem ++ "Output") :=
    ⟨"= " ++ entry.output.print, .inl (by simp [← String.toList_inj])⟩
  cases entry.takesInput with
  | false => exact .cons houtput (.cons ⟨"= () => Promise<ApiResponse<" ++ entry.stem ++ "Output>>", .inl (by
      simp [← String.toList_inj])⟩ .nil)
  | true =>
    exact .cons ⟨"= " ++ entry.input.print, .inl (by simp [← String.toList_inj])⟩
      (.cons houtput (.cons ⟨"= (params: " ++ entry.stem ++ "Input) => Promise<ApiResponse<" ++ entry.stem ++
        "Output>>", .inl (by simp [← String.toList_inj])⟩ .nil))

theorem filter_interfaceLines (group : Group) : (interfaceLines group).filter exportsType = [] := by
  simp [interfaceLines, exportsType]

theorem not_exportsType_ofList {line : List Char}
    (h : ("export type ".toList.isPrefixOf line || "export interface ".toList.isPrefixOf line) = false) :
    ¬ exportsType (String.ofList line) = true := by
  rw [exportsType, String.toList_ofList (l := line), h]
  exact Bool.false_ne_true

theorem filter_transport : transport.filter exportsType = [] := by
  rw [List.filter_eq_nil_iff]
  simp only [transport, List.forall_mem_cons]
  and_intros
  all_goals first | exact not_exportsType_ofList rfl | exact nofun

theorem filter_objectLines (group : Group) : (objectLines group).filter exportsType = [] := by
  simp [objectLines, methodLine, exportsType]

theorem forall₂_flatMap {α : Type} {lines : α → List String} {names : α → List String} (items : List α)
    (h : ∀ item, List.Forall₂ Exports ((lines item).filter exportsType) (names item)) :
    List.Forall₂ Exports ((items.flatMap lines).filter exportsType) (items.flatMap names) := by
  induction items with
  | nil => exact .nil
  | cons item items ih =>
    rw [List.flatMap_cons, List.flatMap_cons, List.filter_append]
    exact List.rel_append (h item) ih

/-- The lines of a client that export a type are those for these names, in order. -/
theorem forall₂_exports (client : Client) :
    List.Forall₂ Exports (client.lines.filter exportsType) client.exports := by
  have hinterface : (client.groups.flatMap interfaceLines).filter exportsType = [] := by
    simp [List.filter_flatMap, filter_interfaceLines]
  have hobject : (client.groups.flatMap objectLines).filter exportsType = [] := by
    simp [List.filter_flatMap, filter_objectLines]
  have hdefinitions := forall₂_flatMap client.definitions forall₂_definitionLines
  have haliases := forall₂_flatMap client.aliases forall₂_aliasLines
  rw [← List.map_eq_flatMap] at hdefinitions
  have hfixed : ["", "export interface ApiClient \x7b"].filter exportsType = ["export interface ApiClient \x7b"] ∧
      ["\x7d", ""].filter exportsType = [] ∧ ["  return \x7b"].filter exportsType = [] ∧
      ["  \x7d", "\x7d"].filter exportsType = [] := by
    decide +kernel
  obtain ⟨hheader, hend, hreturn, hclose⟩ := hfixed
  have hlines : client.lines.filter exportsType =
      ["export interface ApiError \x7b", "export type ApiResponse<T> ="] ++
        (client.definitions.flatMap definitionLines).filter exportsType ++
        (client.aliases.flatMap aliasLines).filter exportsType ++ ["export interface ApiClient \x7b"] := by
    simp only [Client.lines, List.filter_append, filter_heading, filter_transport, hinterface, hobject, hheader,
      hend, hreturn, hclose, List.append_nil]
  rw [hlines]
  refine List.rel_append (List.rel_append (List.rel_append ?_ hdefinitions) haliases) ?_
  · exact .cons ⟨"\x7b", .inr (.inr rfl)⟩ (.cons ⟨"T> =", .inr (.inl rfl)⟩ .nil)
  · exact .cons ⟨"\x7b", .inr (.inr rfl)⟩ .nil

/-! ## Names of aliases -/

theorem exists_of_mem_exports {entry : Alias} {name : String} (h : name ∈ entry.exports) :
    ∃ suffix ∈ suffixes, name = entry.stem ++ suffix := by
  obtain ⟨suffix, hsuffix, rfl⟩ := List.mem_map.mp h
  refine ⟨suffix, ?_, rfl⟩
  split at hsuffix
  · exact hsuffix
  · exact List.mem_of_mem_tail hsuffix

/-- The two parts of an alias name can be told apart. -/
theorem stem_append_inj {stem stem' suffix suffix' : String} (hsuffix : suffix ∈ suffixes)
    (hsuffix' : suffix' ∈ suffixes) (h : stem ++ suffix = stem' ++ suffix') : stem = stem' ∧ suffix = suffix' := by
  -- the ends of the names differ before the shorter one is over
  have hreverse := congrArg (fun name => name.toList.reverse) h
  simp only [suffixes, List.mem_cons, List.not_mem_nil, or_false] at hsuffix hsuffix'
  rcases hsuffix with rfl | rfl | rfl <;> rcases hsuffix' with rfl | rfl | rfl <;>
    simp [← String.toList_inj] at hreverse ⊢ <;> exact hreverse

theorem stem_append_ne {stem suffix : String} (hsuffix : suffix ∈ suffixes) :
    stem ++ suffix ∉ ["ApiError", "ApiResponse", "ApiClient"] := by
  intro h
  simp only [suffixes, List.mem_cons, List.not_mem_nil, or_false] at hsuffix h
  rcases hsuffix with rfl | rfl | rfl <;> rcases h with h | h | h <;>
    simpa using congrArg (fun name => name.toList.reverse) h

/-- An alias name holds no underscore. -/
theorem underscore_notMem_exports {entry : Alias} {identity : RouteIdentity} (hstem : entry.stem = stemOf identity)
    {name : String} (h : name ∈ entry.exports) : '_' ∉ name.toList := by
  obtain ⟨suffix, hsuffix, rfl⟩ := exists_of_mem_exports h
  have hword : ∀ segment, '_' ∉ (aliasWord segment).toList :=
    fun _ hmem => absurd (isAliasChar_of_mem_aliasWord hmem) (by decide)
  have hend : ∀ suffix ∈ suffixes, '_' ∉ suffix.toList := by
    decide
  rw [hstem, stemOf, String.toList_append, String.toList_append, List.mem_append, List.mem_append]
  rintro ((h | h) | h)
  · exact hword _ h
  · exact hword _ h
  · exact hend suffix hsuffix h

theorem output_mem_exports (entry : Alias) : entry.stem ++ "Output" ∈ entry.exports := by
  refine List.mem_map_of_mem ?_
  split <;> decide

/-- The alias names of handlers are different exactly when their stems are. -/
theorem nodup_exports_iff {aliases : List Alias} :
    (aliases.flatMap Alias.exports).Nodup ↔ (aliases.map (·.stem)).Nodup := by
  rw [List.nodup_flatMap, List.nodup_iff_pairwise_ne (l := aliases.map _), List.pairwise_map]
  refine ⟨fun h => h.2.imp fun hdisjoint heq => ?_,
    fun h => ⟨fun entry _ => ?_, h.imp fun hne name hname hname' => ?_⟩⟩
  · -- both would export the same output type
    rename_i entry other
    have houtput := output_mem_exports other
    rw [← heq] at houtput
    exact hdisjoint (output_mem_exports entry) houtput
  · have hsuffixes : (if entry.takesInput then suffixes else suffixes.tail).Nodup := by
      split <;> decide
    exact hsuffixes.map fun a b hab => by simpa using hab
  · obtain ⟨suffix, hsuffix, rfl⟩ := exists_of_mem_exports hname
    obtain ⟨suffix', hsuffix', heq⟩ := exists_of_mem_exports hname'
    exact hne (stem_append_inj hsuffix hsuffix' heq).1

theorem stems_eq {registrations : List Registration} {aliases : List Alias}
    (h : List.Forall₂ (fun registration entry => entry = aliasOf registration ⟨entry.input, entry.output⟩)
      registrations aliases) :
    aliases.map (·.stem) = registrations.map fun registration => stemOf registration.identity := by
  induction h with
  | nil => rfl
  | cons hentry _ ih =>
    rw [List.map_cons, List.map_cons, ih, hentry]
    rfl

/-! ## Names of a client -/

section

variable {registry : Registry} {client : Client}

theorem stems_ofRegistry (h : ofRegistry registry = .ok client) :
    client.aliases.map (·.stem) = registry.registrations.map fun registration => stemOf registration.identity := by
  obtain ⟨-, -, -, haliases⟩ := ofRegistry_ok h
  exact stems_eq haliases

theorem nodup_definitions (h : ofRegistry registry = .ok client) : (client.definitions.map (·.name)).Nodup := by
  obtain ⟨c, hrun, hdefinitions, -⟩ := ofRegistry_ok h
  rw [hdefinitions]
  exact (hrun.coherent .empty).unique

theorem underscore_mem_definitions (h : ofRegistry registry = .ok client)
    (hpaths : ∀ d, Descriptor.NamedFrom registry.slots registry.types d → 2 ≤ d.path.length) {name : String}
    (hname : name ∈ client.definitions.map (·.name)) : '_' ∈ name.toList := by
  obtain ⟨c, hrun, hdefinitions, -⟩ := ofRegistry_ok h
  obtain ⟨definition, hdefinition, rfl⟩ := List.mem_map.mp hname
  exact hrun.underscore_mem hpaths definition (hdefinitions ▸ hdefinition)

/-- An alias name is neither that of a definition, which holds an underscore, nor one of the envelope. -/
theorem alias_name_apart (h : ofRegistry registry = .ok client) {name : String}
    (hname : name ∈ client.aliases.flatMap Alias.exports) :
    '_' ∉ name.toList ∧ name ∉ ["ApiError", "ApiResponse", "ApiClient"] := by
  obtain ⟨entry, hentry, hname⟩ := List.mem_flatMap.mp hname
  have hstem : entry.stem ∈ client.aliases.map (·.stem) := List.mem_map_of_mem hentry
  rw [stems_ofRegistry h] at hstem
  obtain ⟨registration, -, hstem⟩ := List.mem_map.mp hstem
  refine ⟨underscore_notMem_exports hstem.symm hname, ?_⟩
  obtain ⟨suffix, hsuffix, rfl⟩ := exists_of_mem_exports hname
  exact stem_append_ne hsuffix

/-- Only two aliases could export the same name. -/
theorem nodup_exports_of_aliases (h : ofRegistry registry = .ok client)
    (hpaths : ∀ d, Descriptor.NamedFrom registry.slots registry.types d → 2 ≤ d.path.length)
    (haliases : (client.aliases.flatMap Alias.exports).Nodup) : client.exports.Nodup := by
  have henvelope : ∀ name ∈ ["ApiError", "ApiResponse", "ApiClient"], '_' ∉ name.toList := by
    decide
  have hdefined {name : String} (hname : name ∈ client.definitions.map (·.name)) : '_' ∈ name.toList :=
    underscore_mem_definitions h hpaths hname
  refine (((List.Nodup.append ?_ (nodup_definitions h) ?_).append haliases ?_).append (List.nodup_singleton _) ?_)
  · decide
  · exact fun name hname hdefinition =>
      henvelope name (List.mem_append_left ["ApiClient"] hname) (hdefined hdefinition)
  · intro name hname halias
    rcases List.mem_append.mp hname with hname | hdefinition
    · exact (alias_name_apart h halias).2 (List.mem_append_left ["ApiClient"] hname)
    · exact (alias_name_apart h halias).1 (hdefined hdefinition)
  · rintro name hname hlast
    obtain rfl := List.mem_singleton.mp hlast
    rcases List.mem_append.mp hname with hname | halias
    · rcases List.mem_append.mp hname with hname | hdefinition
      · exact absurd hname (by decide)
      · exact henvelope _ (by decide) (hdefined hdefinition)
    · exact (alias_name_apart h halias).2 (by decide)

end

/-- **Exported names are different exactly when the stems are.** The lines of a client export the envelope types, the
definitions and the aliases of the handlers. When each composite that is reached has a path of several segments, no
two of the exported types have one name if and only if no two handlers have one stem. -/
theorem exports_nodup_iff {registry : Registry} {client : Client} (h : ofRegistry registry = .ok client)
    (hpaths : ∀ d, Descriptor.NamedFrom registry.slots registry.types d → 2 ≤ d.path.length) :
    List.Forall₂ Exports (client.lines.filter exportsType) client.exports ∧
    (client.exports.Nodup ↔
      (registry.registrations.map fun registration => stemOf registration.identity).Nodup) := by
  refine ⟨forall₂_exports client, ?_⟩
  rw [← stems_ofRegistry h, ← nodup_exports_iff]
  refine ⟨fun hnodup => ?_, nodup_exports_of_aliases h hpaths⟩
  exact hnodup.sublist ((List.sublist_append_right ..).trans (List.sublist_append_left ..))

/-- Two handlers with different stems, of which one answers with a composite. -/
theorem exports_nodup_iff_user :
    let user : Descriptor := .named "app::models::User" (.listed [])
    let first : RouteIdentity := ⟨"users", "get_by_id", by decide, by decide⟩
    let second : RouteIdentity := ⟨"users", "list", by decide, by decide⟩
    let entry := fun identity input output =>
      (identity.key, (Registry.empty .root []).record identity ⟨input, output⟩)
    let registry : Registry := ⟨.root, [], [entry first .number user, entry second (.inline (.listed [])) .number]⟩
    (∀ d, Descriptor.NamedFrom registry.slots registry.types d → 2 ≤ d.path.length) ∧
    ∃ client, ofRegistry registry = .ok client ∧
      client.exports = ["ApiError", "ApiResponse", "models_User", "UsersGetByIdInput", "UsersGetByIdOutput",
        "UsersGetByIdHandler", "UsersListOutput", "UsersListHandler", "ApiClient"] ∧
      client.exports.Nodup := by
  intro user first second entry registry
  have hpaths : ∀ d, Descriptor.NamedFrom registry.slots registry.types d → 2 ≤ d.path.length := by
    intro d hd
    have hmem : d ∈ [.number, user, .inline (.listed []), .number] :=
      hd.2.mem_of_flat (by simp [Descriptor.parts, Descriptor.fields, FieldList.resolve, registry, user])
    simp only [List.mem_cons, List.not_mem_nil, or_false] at hmem
    rcases hmem with rfl | rfl | rfl | rfl
    · exact absurd rfl hd.1
    · decide +kernel
    · exact absurd rfl hd.1
    · exact absurd rfl hd.1
  have hshown : (ofRegistry registry).toOption.map (·.exports) = some ["ApiError", "ApiResponse", "models_User",
      "UsersGetByIdInput", "UsersGetByIdOutput", "UsersGetByIdHandler", "UsersListOutput", "UsersListHandler",
      "ApiClient"] := by
    decide +kernel
  obtain ⟨client, hclient, hshown⟩ := exists_client hshown
  exact ⟨hpaths, client, hclient, hshown, (exports_nodup_iff hclient hpaths).2.mpr (by decide +kernel)⟩

/-- Two keys that differ in where the underscore stands have one stem, and the client exports each of its aliases
twice, with different types. -/
theorem exports_underscores :
    let first : RouteIdentity := ⟨"a", "b_c", by decide, by decide⟩
    let second : RouteIdentity := ⟨"a_b", "c", by decide, by decide⟩
    let entry := fun identity output =>
      (identity.key, (Registry.empty .root []).record identity ⟨.inline (.listed []), output⟩)
    let registry : Registry := ⟨.root, [], [entry first .string, entry second .number]⟩
    (registry.handlers.map (·.1)).Nodup ∧
    (∀ d, Descriptor.NamedFrom registry.slots registry.types d → 2 ≤ d.path.length) ∧
    ∃ client, ofRegistry registry = .ok client ∧
      client.exports = ["ApiError", "ApiResponse", "ABCOutput", "ABCHandler", "ABCOutput", "ABCHandler",
        "ApiClient"] ∧
      ¬ client.exports.Nodup := by
  intro first second entry registry
  have hpaths : ∀ d, Descriptor.NamedFrom registry.slots registry.types d → 2 ≤ d.path.length := by
    intro d hd
    have hmem : d ∈ [.inline (.listed []), .string, .inline (.listed []), .number] :=
      hd.2.mem_of_flat (by simp [Descriptor.parts, Descriptor.fields, FieldList.resolve, registry])
    simp only [List.mem_cons, List.not_mem_nil, or_false] at hmem
    rcases hmem with rfl | rfl | rfl | rfl <;> exact absurd rfl hd.1
  have hshown : (ofRegistry registry).toOption.map (·.exports) =
      some ["ApiError", "ApiResponse", "ABCOutput", "ABCHandler", "ABCOutput", "ABCHandler", "ApiClient"] := by
    decide +kernel
  obtain ⟨client, hclient, hshown⟩ := exists_client hshown
  refine ⟨by decide +kernel, hpaths, client, hclient, hshown, ?_⟩
  rw [hshown]
  decide

end TypedRpc.Client
