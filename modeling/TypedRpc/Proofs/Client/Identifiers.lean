import TypedRpc.Proofs.Client.Exports
import TypedRpc.Proofs.TypeScript.Unambiguous

/-!
# Alias names as identifiers

The aliases of a handler whose namespace and name are ASCII consist of characters that can stand in an identifier. They
begin with the first letter, number or `$` of the two, though, and nothing is put in front of a digit. Main statement:
`alias_isIdentifier_iff`.
-/

namespace TypedRpc.Client

open TypedRpc.Text TypedRpc.TypeScript

/-! ## Characters of identifiers -/

theorem isIdentifierPart_of_isAliasChar {c : Char} (h : IsAliasChar c) (hlt : c.toNat < 0x80) :
    isIdentifierPart c = true := by
  rcases h with halphanum | rfl | hbeyond
  · simp [isIdentifierPart, halphanum]
  · decide
  · omega

/-- Only digits can continue an identifier and not begin one. -/
theorem isIdentifierStart_iff {c : Char} (h : isIdentifierPart c = true) (hlt : c.toNat < 0x80) :
    isIdentifierStart c = true ↔ c.isDigit = false := by
  refine forall_ascii (P := fun c => isIdentifierPart c = true →
    (isIdentifierStart c = true ↔ c.isDigit = false)) ?_ hlt h
  decide +kernel

theorem isIdentifier_append {stem suffix : List Char} (hstem : ∀ c ∈ stem, isIdentifierPart c = true)
    (hsuffix : isIdentifier suffix = true) :
    isIdentifier (stem ++ suffix) = true ↔ ∀ c, stem.head? = some c → isIdentifierStart c = true := by
  cases stem with
  | nil => simpa using hsuffix
  | cons first rest =>
    obtain ⟨-, hrest⟩ := List.forall_mem_cons.mp hstem
    have hall : (rest ++ suffix).all isIdentifierPart = true := by
      rw [List.all_append, Bool.and_eq_true, List.all_eq_true, List.all_eq_true]
      exact ⟨hrest, PropertyName.isWord_of_isIdentifier hsuffix⟩
    simp [isIdentifier, hall]

/-! ## Stems -/

/-- The first character of a key that is taken over into the stem is a digit. -/
def beginsWithDigit (identity : RouteIdentity) : Bool :=
  ((identity.ns ++ identity.name).toList.find? fun c => !isWordBreak c).any Char.isDigit

section

variable {identity : RouteIdentity}

theorem isIdentifierPart_of_mem_stemOf (h : IsAscii (identity.ns ++ identity.name)) :
    ∀ c ∈ (stemOf identity).toList, c.toNat < 0x80 ∧ isIdentifierPart c = true := by
  obtain ⟨hns, hname⟩ := isAscii_append.mp h
  have hascii : IsAscii (stemOf identity) :=
    isAscii_append.mpr ⟨isAscii_aliasWord hns, isAscii_aliasWord hname⟩
  intro c hc
  refine ⟨hascii c hc, isIdentifierPart_of_isAliasChar ?_ (hascii c hc)⟩
  rw [stemOf, String.toList_append, List.mem_append] at hc
  exact hc.elim isAliasChar_of_mem_aliasWord isAliasChar_of_mem_aliasWord

theorem head?_stemOf (h : IsAscii (identity.ns ++ identity.name)) :
    (stemOf identity).toList.head? =
      ((identity.ns ++ identity.name).toList.find? fun c => !isWordBreak c).map Char.toUpper := by
  obtain ⟨hns, hname⟩ := isAscii_append.mp h
  rw [stemOf, String.toList_append, List.head?_append, head?_aliasWord hns, head?_aliasWord hname, String.toList_append,
    List.find?_append, Option.map_or]

/-- Whatever it ends with, an alias name is an identifier unless it begins with a digit. -/
theorem isIdentifier_stemOf_append (h : IsAscii (identity.ns ++ identity.name)) {suffix : String}
    (hsuffix : suffix ∈ suffixes) :
    isIdentifier (stemOf identity ++ suffix).toList = true ↔ beginsWithDigit identity = false := by
  have hend : ∀ suffix ∈ suffixes, isIdentifier suffix.toList = true := by
    decide
  have hparts := isIdentifierPart_of_mem_stemOf h
  rw [String.toList_append, isIdentifier_append (fun c hc => (hparts c hc).2) (hend suffix hsuffix), head?_stemOf h,
    beginsWithDigit]
  cases hfirst : (identity.ns ++ identity.name).toList.find? fun c => !isWordBreak c with
  | none => simp
  | some first =>
    have hascii : first.toNat < 0x80 := h first (List.mem_of_find?_eq_some hfirst)
    obtain ⟨hlt, hdigit⟩ := toUpper_of_ascii hascii
    have hpart : isIdentifierPart first.toUpper = true := by
      refine (hparts first.toUpper (List.mem_of_head? ?_)).2
      rw [head?_stemOf h, hfirst, Option.map_some]
    simp [isIdentifierStart_iff hpart hlt, hdigit]

end

/-! ## Aliases of a client -/

/-- **Alias names are identifiers unless they begin with a digit.** A client has an alias for each handler, in order,
under its stem, and the lines that export types are those for the exported names. If the namespace and the name of a
handler are ASCII, then each of its exported names is an identifier if and only if the first letter, number or `$` of
the two is no digit. -/
theorem alias_isIdentifier_iff {registry : Registry} {client : Client} (h : ofRegistry registry = .ok client) :
    List.Forall₂ Exports (client.lines.filter exportsType) client.exports ∧
    (∀ entry ∈ client.aliases, ∀ name ∈ entry.exports, name ∈ client.exports) ∧
    List.Forall₂ (fun registration entry =>
        entry.stem = stemOf registration.identity ∧
        (IsAscii (registration.identity.ns ++ registration.identity.name) → ∀ name ∈ entry.exports,
          (isIdentifier name.toList = true ↔ beginsWithDigit registration.identity = false)))
      registry.registrations client.aliases := by
  obtain ⟨-, -, -, haliases⟩ := ofRegistry_ok h
  refine ⟨forall₂_exports client, fun entry hentry name hname => ?_, haliases.imp fun registration entry hentry => ?_⟩
  · have halias : name ∈ client.aliases.flatMap Alias.exports := List.mem_flatMap.mpr ⟨entry, hentry, hname⟩
    simp [exports, halias]
  · have hstem : entry.stem = stemOf registration.identity := by rw [hentry]; rfl
    refine ⟨hstem, fun hascii name hname => ?_⟩
    obtain ⟨suffix, hsuffix, rfl⟩ := exists_of_mem_exports hname
    rw [hstem]
    exact isIdentifier_stemOf_append hascii hsuffix

/-- A digit inside a namespace stays in the names, and a hyphen is dropped from them. -/
theorem alias_isIdentifier_hyphen :
    let identity : RouteIdentity := ⟨"v1-admin", "ping", by decide, by decide⟩
    let registry : Registry := ⟨.root, [],
      [(identity.key, (Registry.empty .root []).record identity ⟨.inline (.listed []), .string⟩)]⟩
    IsAscii (identity.ns ++ identity.name) ∧ beginsWithDigit identity = false ∧
    ∃ client, ofRegistry registry = .ok client ∧
      client.aliases.flatMap Alias.exports = ["V1AdminPingOutput", "V1AdminPingHandler"] ∧
      ∀ name ∈ client.aliases.flatMap Alias.exports, isIdentifier name.toList = true := by
  intro identity registry
  have hascii : IsAscii (identity.ns ++ identity.name) := by
    decide
  have hdigit : beginsWithDigit identity = false := by
    decide +kernel
  have hshown : (ofRegistry registry).toOption.map (·.aliases.flatMap Alias.exports) =
      some ["V1AdminPingOutput", "V1AdminPingHandler"] := by
    decide +kernel
  obtain ⟨client, hclient, hshown⟩ := exists_client hshown
  refine ⟨hascii, hdigit, client, hclient, hshown, fun name hname => ?_⟩
  obtain ⟨-, -, haliases⟩ := alias_isIdentifier_iff hclient
  obtain ⟨entry, hentry, hname⟩ := List.mem_flatMap.mp hname
  rw [show registry.registrations = [(Registry.empty .root []).record identity ⟨.inline (.listed []), .string⟩] from rfl]
    at haliases
  generalize client.aliases = aliases at haliases hentry
  cases haliases with
  | cons hfirst hrest =>
    cases hrest
    obtain rfl := List.mem_singleton.mp hentry
    exact (hfirst.2 hascii name hname).mpr hdigit

/-- A namespace that begins with a digit gives names that are no identifiers. -/
theorem alias_digit :
    let identity : RouteIdentity := ⟨"2fa", "verify", by decide, by decide⟩
    let registry : Registry := ⟨.root, [],
      [(identity.key, (Registry.empty .root []).record identity ⟨.string, .boolean⟩)]⟩
    IsAscii (identity.ns ++ identity.name) ∧
    ∃ client, ofRegistry registry = .ok client ∧
      client.aliases.flatMap Alias.exports = ["2faVerifyInput", "2faVerifyOutput", "2faVerifyHandler"] ∧
      ∀ name ∈ client.aliases.flatMap Alias.exports, isIdentifier name.toList = false := by
  intro identity registry
  have hshown : (ofRegistry registry).toOption.map (·.aliases.flatMap Alias.exports) =
      some ["2faVerifyInput", "2faVerifyOutput", "2faVerifyHandler"] := by
    decide +kernel
  obtain ⟨client, hclient, hshown⟩ := exists_client hshown
  refine ⟨by decide, client, hclient, hshown, ?_⟩
  rw [hshown]
  decide

end TypedRpc.Client
