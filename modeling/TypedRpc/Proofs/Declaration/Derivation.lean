import Mathlib.Data.List.Forall2
import TypedRpc.Declaration.Derivation
import TypedRpc.Proofs.Declaration.Attribute

/-!
# Descriptions of records

A field has a name in each direction in which its record travels. It is described under that name if there is one for
both, which is found in two steps: first the rules for all fields are compared, then the names of each field. Main
statement: `derive_wire_fields`.
-/

namespace TypedRpc.Declaration

/-! ## Fields -/

namespace DeclaredField

/-- The options of a field about how it travels. -/
def options (field : DeclaredField) : List AttributeOption :=
  optionsOf "serde" field.attributes

/-- The field has a name, and is not marked as one to skip. -/
def travels (field : DeclaredField) : Bool :=
  field.name.isSome && !mentions ["skip"] field.options

/-- The name of a field in a direction: the last one given for it, or else what a rule makes of the name that it is
declared with. -/
def nameBy (rule : RenameRule) (direction : Direction) (field : DeclaredField) : String :=
  (textsOf "rename" direction field.options).getLast?.getD (rule.apply (plainName (field.name.getD "")))

/-- What is put down for a field with one name. -/
def entry (rule : RenameRule) (field : DeclaredField) : DerivedField :=
  ⟨field.nameBy rule .serialize, mentions absences field.options, field.type⟩

end DeclaredField

theorem FieldOptions.wireName_eq_ok_iff {options : FieldOptions} {byRule name : String} :
    options.wireName byRule = .ok name ↔
      (options.rename.toward .serialize).getD byRule = (options.rename.toward .deserialize).getD byRule ∧
      name = (options.rename.toward .serialize).getD byRule :=
  Except.ite_eq_ok_iff

namespace DeclaredField

variable {rule : RenameRule} {field : DeclaredField}

/-- A field can be described if its options can be read and, in case it travels, give it one name. -/
theorem derive_eq_ok_iff {result : Option DerivedField} :
    field.derive rule = .ok result ↔
      (∀ option ∈ field.options, option.FitsField) ∧
      (field.travels = true → field.nameBy rule .serialize = field.nameBy rule .deserialize) ∧
      result = if field.travels then some (field.entry rule) else none := by
  rw [derive, Derive.attributes, Except.bind_eq_ok_iff]
  simp only [Except.mapError_eq_ok_iff, FieldOptions.ofAttributes_eq_ok_iff, and_assoc, exists_and_left, exists_eq_left]
  refine and_congr_right fun _ => ?_
  cases hname : field.name with
  | none => simp [travels, hname, Except.pure_eq_ok_iff]
  | some name =>
    rw [← options]
    cases hskip : mentions ["skip"] field.options with
    | true => simp [travels, hname, hskip, FieldOptions.default, Except.pure_eq_ok_iff]
    | false =>
      simp only [FieldOptions.skipped_after, hskip, FieldOptions.default, Bool.or_false, Except.bind_eq_ok_iff,
        FieldOptions.wireName_eq_ok_iff, Except.pure_eq_ok_iff]
      simp [travels, hname, hskip, nameBy, entry]

end DeclaredField

theorem deriveFields_eq_ok_iff {rule : RenameRule} {fields : List DeclaredField} {entries : List DerivedField} :
    deriveFields rule fields = .ok entries ↔
      (∀ field ∈ fields, ∀ option ∈ field.options, option.FitsField) ∧
      (∀ field ∈ fields, field.travels = true → field.nameBy rule .serialize = field.nameBy rule .deserialize) ∧
      entries = (fields.filter DeclaredField.travels).map (DeclaredField.entry rule) := by
  induction fields generalizing entries with
  | nil =>
    rw [deriveFields, Except.ok.injEq, eq_comm]
    simp
  | cons field rest ih =>
    simp only [deriveFields, Except.bind_eq_ok_iff, Except.pure_eq_ok_iff, DeclaredField.derive_eq_ok_iff, ih,
      List.forall_mem_cons]
    constructor
    · rintro ⟨_, ⟨hfits, hname, rfl⟩, _, ⟨hrest, hnames, rfl⟩, rfl⟩
      refine ⟨⟨hfits, hrest⟩, ⟨hname, hnames⟩, ?_⟩
      cases h : field.travels <;> simp [h]
    · rintro ⟨⟨hfits, hrest⟩, ⟨hname, hnames⟩, rfl⟩
      refine ⟨_, ⟨hfits, hname, rfl⟩, _, ⟨hrest, hnames, rfl⟩, ?_⟩
      cases h : field.travels <;> simp [h]

/-! ## Records with named fields -/

namespace TypeDeclaration

/-- The options of a record about how it travels. -/
def options (declaration : TypeDeclaration) : List AttributeOption :=
  optionsOf "serde" declaration.attributes

/-- The options of a record about how it is described. -/
def descriptionOptions (declaration : TypeDeclaration) : List AttributeOption :=
  optionsOf "describe" declaration.attributes

/-- The rule for the names of all fields in a direction: the last one given for it. -/
def ruleToward (direction : Direction) (declaration : TypeDeclaration) : RenameRule :=
  (rulesOf direction declaration.options).getLast?.getD .unchanged

/-- The name of a field of a record in a direction. -/
def nameToward (direction : Direction) (declaration : TypeDeclaration) (field : DeclaredField) : String :=
  field.nameBy (declaration.ruleToward direction) direction

/-- The record is written as one that can be described: all options fit, the two rules are the same, and each field
that travels has the same name in both directions. -/
structure Describable (declaration : TypeDeclaration) (fields : List DeclaredField) : Prop where
  fits : ∀ option ∈ declaration.options, option.FitsRecord
  fits_description : ∀ option ∈ declaration.descriptionOptions, option.FitsDescription
  fits_fields : ∀ field ∈ fields, ∀ option ∈ field.options, option.FitsField
  one_rule : declaration.ruleToward .serialize = declaration.ruleToward .deserialize
  one_name : ∀ field ∈ fields, field.travels = true →
    declaration.nameToward .serialize field = declaration.nameToward .deserialize field

/-- The field is put down as it travels: under its name in either direction, as one that may be missing if an option
says so, and with its type. -/
structure Describes (declaration : TypeDeclaration) (field : DeclaredField) (entry : DerivedField) : Prop where
  name_eq : ∀ direction, entry.name = declaration.nameToward direction field
  leaveable_iff : entry.leaveable = true ↔ ∃ option ∈ field.options, option.name ∈ absences
  type_eq : entry.type = field.type

variable {declaration : TypeDeclaration} {fields : List DeclaredField}

/-- What the options of a record say. -/
def said (declaration : TypeDeclaration) : RecordOptions :=
  RecordOptions.default.after declaration.options declaration.descriptionOptions

theorem read_eq_ok_iff {state : RecordOptions} :
    Derive.attributes (RecordOptions.ofAttributes declaration.attributes) = .ok state ↔
      (∀ option ∈ declaration.options, option.FitsRecord) ∧
      (∀ option ∈ declaration.descriptionOptions, option.FitsDescription) ∧ state = declaration.said :=
  Except.mapError_eq_ok_iff.trans RecordOptions.ofAttributes_eq_ok_iff

theorem renameAll_said (direction : Direction) :
    (declaration.said.renameAll.toward direction).getD .unchanged = declaration.ruleToward direction := by
  simp [said, ruleToward, RecordOptions.default]

theorem rule_said_eq_ok_iff {rule : RenameRule} :
    declaration.said.rule = .ok rule ↔
      declaration.ruleToward .serialize = declaration.ruleToward .deserialize ∧
      rule = declaration.ruleToward .serialize := by
  rw [← renameAll_said, ← renameAll_said]
  exact Except.ite_eq_ok_iff

/-- The description of named fields that do not travel as one of them. -/
theorem derive_named_eq_ok_iff {name : String} {state : RecordOptions} {rule : RenameRule} {derivation : Derivation}
    (h : state.transparent = false) :
    (DeclarationBody.named fields).derive name state rule = .ok derivation ↔
      (∀ field ∈ fields, ∀ option ∈ field.options, option.FitsField) ∧
      (∀ field ∈ fields, field.travels = true → field.nameBy rule .serialize = field.nameBy rule .deserialize) ∧
      derivation = .composite (if state.inline then none else some name)
        ((fields.filter DeclaredField.travels).map (DeclaredField.entry rule)) := by
  simp only [DeclarationBody.derive, h, Bool.false_eq_true, if_false, Except.bind_eq_ok_iff, Except.pure_eq_ok_iff,
    deriveFields_eq_ok_iff, and_assoc, exists_and_left, exists_eq_left]

/-- A record with named fields that does not travel as one of them can be described exactly if it is written so, and
then it is described as the fields that travel. -/
theorem derive_eq_ok_iff (hbody : declaration.body = .named fields)
    (hparameters : hasParameters declaration.parameters = false)
    (htransparent : mentions ["transparent"] declaration.options = false) {derivation : Derivation} :
    declaration.derive = .ok derivation ↔ declaration.Describable fields ∧
      derivation = .composite
        (if mentions ["inline"] declaration.descriptionOptions then none else some declaration.name)
        ((fields.filter DeclaredField.travels).map (DeclaredField.entry (declaration.ruleToward .serialize))) := by
  have hsaid : declaration.said.transparent = false := by
    simp [said, RecordOptions.default, htransparent]
  have hinline : declaration.said.inline = mentions ["inline"] declaration.descriptionOptions := by
    simp [said, RecordOptions.default]
  simp only [derive, hparameters, hbody, Bool.false_eq_true, if_false, Except.bind_eq_ok_iff]
  constructor
  · rintro ⟨state, hread, rule, hrule, hderive⟩
    obtain ⟨hfits, hdescription, rfl⟩ := read_eq_ok_iff.mp hread
    obtain ⟨hone, rfl⟩ := rule_said_eq_ok_iff.mp hrule
    obtain ⟨hfields, hnames, rfl⟩ := (derive_named_eq_ok_iff hsaid).mp hderive
    refine ⟨⟨hfits, hdescription, hfields, hone, ?_⟩, by rw [hinline]⟩
    intro field hfield htravels
    rw [nameToward, nameToward, ← hone]
    exact hnames field hfield htravels
  · rintro ⟨hwritten, rfl⟩
    have hnames : ∀ field ∈ fields, field.travels = true →
        field.nameBy (declaration.ruleToward .serialize) .serialize =
          field.nameBy (declaration.ruleToward .serialize) .deserialize := by
      intro field hfield htravels
      have hname := hwritten.one_name field hfield htravels
      rwa [nameToward, nameToward, ← hwritten.one_rule] at hname
    refine ⟨_, read_eq_ok_iff.mpr ⟨hwritten.fits, hwritten.fits_description, rfl⟩,
      _, rule_said_eq_ok_iff.mpr ⟨hwritten.one_rule, rfl⟩,
      (derive_named_eq_ok_iff hsaid).mpr ⟨hwritten.fits_fields, hnames, by rw [hinline]⟩⟩

theorem describes_entry (hwritten : declaration.Describable fields) {field : DeclaredField} (hfield : field ∈ fields)
    (htravels : field.travels = true) :
    declaration.Describes field (field.entry (declaration.ruleToward .serialize)) where
  name_eq direction := by
    cases direction with
    | serialize => rfl
    | deserialize => exact hwritten.one_name field hfield htravels
  leaveable_iff := by simp [DeclaredField.entry, mentions]
  type_eq := rfl

/-- **The description lists what travels.** A record with named fields and without parameters that does not travel as one
of its fields is described, if at all, with one entry for each field that is not marked to be skipped, in order: under its
name in both directions, which is the last one given for the direction or else what the rule of the direction makes of
the name that it is declared with, as one that may be missing exactly if an option says that it is left out in a direction
or at times, and with its type. There is no description if a field is flattened, or if the names of a field that is not
skipped differ. If neither is the case, the two rules are the same and all options are written as they should be, there
is one. -/
theorem derive_wire_fields (hbody : declaration.body = .named fields)
    (hparameters : hasParameters declaration.parameters = false)
    (htransparent : mentions ["transparent"] declaration.options = false) :
    (∀ derivation, declaration.derive = .ok derivation → ∃ entries,
      derivation = .composite
        (if mentions ["inline"] declaration.descriptionOptions then none else some declaration.name) entries ∧
      List.Forall₂ declaration.Describes (fields.filter DeclaredField.travels) entries) ∧
    ((∃ field ∈ fields, ∃ option ∈ field.options, option.name = "flatten") ∨
      (∃ field ∈ fields, field.travels = true ∧
        declaration.nameToward .serialize field ≠ declaration.nameToward .deserialize field) →
      ∃ error, declaration.derive = .error error) ∧
    ((∃ derivation, declaration.derive = .ok derivation) ↔ declaration.Describable fields) := by
  have hderive := @derive_eq_ok_iff declaration fields hbody hparameters htransparent
  refine ⟨?_, ?_, ?_⟩
  · intro derivation hok
    obtain ⟨hwritten, rfl⟩ := hderive.mp hok
    refine ⟨_, rfl, List.forall₂_map_right_iff.mpr (List.forall₂_same.mpr ?_)⟩
    intro field hfield
    obtain ⟨hmem, htravels⟩ := List.mem_filter.mp hfield
    exact describes_entry hwritten hmem htravels
  · intro hwrong
    cases hok : declaration.derive with
    | error error => exact ⟨error, rfl⟩
    | ok derivation =>
      obtain ⟨hwritten, -⟩ := hderive.mp hok
      rcases hwrong with ⟨field, hfield, option, hoption, hflatten⟩ | ⟨field, hfield, htravels, hne⟩
      · have hfits := hwritten.fits_fields field hfield option hoption
        simp [AttributeOption.FitsField, hflatten] at hfits
      · exact absurd (hwritten.one_name field hfield htravels) hne
  · constructor
    · rintro ⟨derivation, hok⟩
      exact (hderive.mp hok).1
    · intro hwritten
      exact ⟨_, hderive.mpr ⟨hwritten, rfl⟩⟩

/-- Rules given for each direction in a list of its own, a name given twice, a reserved word, and a field to skip. -/
theorem derive_wire_fields_account :
    let rule (direction : String) : Attribute :=
      ⟨"serde", [.applied "rename_all" [.assigned direction "camelCase"], .word "deny_unknown_fields"]⟩
    let fields : List DeclaredField :=
      [⟨some "r#type", "String", []⟩,
        ⟨some "user_name", "String", [⟨"serde", [.assigned "rename" "name", .word "default"]⟩,
          ⟨"serde", [.applied "rename" [.assigned "deserialize" "login", .assigned "serialize" "login"]]⟩]⟩,
        ⟨some "cached", "u8", [⟨"serde", [.word "skip"]⟩]⟩,
        ⟨some "last_seen", "u64", [⟨"serde", [.assigned "skip_serializing_if" "Option::is_none"]⟩]⟩]
    let declaration : TypeDeclaration := ⟨"Account", "", [rule "serialize", rule "deserialize"], .named fields⟩
    let entries : List DerivedField :=
      [⟨"type", false, "String"⟩, ⟨"login", false, "String"⟩, ⟨"lastSeen", true, "u64"⟩]
    hasParameters declaration.parameters = false ∧ mentions ["transparent"] declaration.options = false ∧
    declaration.derive = .ok (.composite (some "Account") entries) ∧ declaration.Describable fields ∧
    List.Forall₂ declaration.Describes (fields.filter DeclaredField.travels) entries := by
  intro rule fields declaration entries
  have hparameters : hasParameters declaration.parameters = false := by
    decide +kernel
  have htransparent : mentions ["transparent"] declaration.options = false := by
    decide +kernel
  have hderive : declaration.derive = .ok (.composite (some "Account") entries) := by
    rfl
  obtain ⟨hentries, -, hdescribable⟩ := derive_wire_fields rfl hparameters htransparent
  obtain ⟨_, hsame, hall⟩ := hentries _ hderive
  cases hsame
  exact ⟨hparameters, htransparent, hderive, hdescribable.mp ⟨_, hderive⟩, hall⟩

end TypeDeclaration

end TypedRpc.Declaration
