import Mathlib.Data.List.Basic
import TypedRpc.Declaration.Attribute
import TypedRpc.Proofs.Outcome

/-!
# What attributes say

Options are read one after the other into what has been read so far. Here it is said of a list of options as a whole
which of them can be read, and what they say together: of texts given for a direction the last one counts, whichever
option gives it, and a mark counts wherever it stands.
-/

namespace TypedRpc.Declaration

/-- A way in which records travel. -/
inductive Direction where
  | serialize
  | deserialize
  deriving DecidableEq, Repr

/-- The word for a direction in the list of an option. -/
def Direction.word : Direction → String
  | .serialize => "serialize"
  | .deserialize => "deserialize"

/-! ## Single options -/

namespace AttributeOption

/-- The text for a direction that an option in the list of another one gives. -/
def textToward? (direction : Direction) : AttributeOption → Option String
  | .assigned name text => if name = direction.word then some text else none
  | _ => none

/-- The texts that an option gives for a direction, in order. A text without a list is one for both directions. -/
def textsToward (direction : Direction) : AttributeOption → List String
  | .word _ => []
  | .assigned _ text => [text]
  | .applied _ options => options.filterMap (textToward? direction)

/-- The option is a word alone. -/
def IsBare : AttributeOption → Prop
  | .word _ => True
  | _ => False

/-- The option gives a text, or a list of them, and nothing else. -/
def GivesTexts (IsText : String → Prop) : AttributeOption → Prop
  | .word _ => False
  | .assigned _ text => IsText text
  | .applied _ options => options ≠ [] ∧ ∀ option ∈ options, ∃ name text, option = .assigned name text ∧ IsText text

/-- No list in the option is empty. -/
inductive IsWritten : AttributeOption → Prop
  | word (name : String) : IsWritten (.word name)
  | assigned (name text : String) : IsWritten (.assigned name text)
  | applied {name : String} {options : List AttributeOption} (hne : options ≠ [])
      (h : ∀ option ∈ options, IsWritten option) : IsWritten (.applied name options)

theorem bare_eq_ok_iff {option : AttributeOption} {u : Unit} : option.bare = .ok u ↔ option.IsBare := by
  cases option <;> simp [bare, IsBare]

mutual

theorem ignore_eq_ok_iff : (option : AttributeOption) → {u : Unit} → (option.ignore = .ok u ↔ option.IsWritten)
  | .word name, _ => by
    simp [ignore, IsWritten.word]
  | .assigned name text, _ => by
    simp [ignore, IsWritten.assigned]
  | .applied name [], _ => by
    rw [ignore]
    constructor
    · intro h
      cases h
    · rintro (_ | _ | ⟨hne, -⟩)
      exact absurd rfl hne
  | .applied name (first :: rest), _ => by
    rw [ignore, Except.bind_eq_ok_iff]
    simp only [ignore_eq_ok_iff first, ignoreAll_eq_ok_iff rest, exists_const]
    constructor
    · rintro ⟨hfirst, hrest⟩
      exact .applied (List.cons_ne_nil _ _) (List.forall_mem_cons.mpr ⟨hfirst, hrest⟩)
    · rintro (_ | _ | ⟨-, h⟩)
      exact List.forall_mem_cons.mp h

theorem ignoreAll_eq_ok_iff :
    (options : List AttributeOption) → {u : Unit} → (ignoreAll options = .ok u ↔ ∀ option ∈ options, option.IsWritten)
  | [], _ => by
    simp [ignoreAll]
  | option :: rest, _ => by
    rw [ignoreAll, Except.bind_eq_ok_iff]
    simp [ignore_eq_ok_iff option, ignoreAll_eq_ok_iff rest]

end

end AttributeOption

/-! ## Texts by direction -/

namespace PerDirection

variable {α : Type}

/-- What is said of a direction. -/
def toward (sides : PerDirection α) : Direction → Option α
  | .serialize => sides.serialize
  | .deserialize => sides.deserialize

/-- What is said after more values have been given, for each direction in order. -/
def given (sides : PerDirection α) (values : Direction → List α) : PerDirection α :=
  ⟨(values .serialize).getLast?.or sides.serialize, (values .deserialize).getLast?.or sides.deserialize⟩

@[simp]
theorem toward_nothing (direction : Direction) : (nothing : PerDirection α).toward direction = none := by
  cases direction <;> rfl

@[simp]
theorem toward_given (sides : PerDirection α) (values : Direction → List α) (direction : Direction) :
    (sides.given values).toward direction = (values direction).getLast?.or (sides.toward direction) := by
  cases direction <;> rfl

@[simp]
theorem given_nil (sides : PerDirection α) : sides.given (fun _ => []) = sides := by
  simp [given]

theorem given_given (sides : PerDirection α) (values later : Direction → List α) :
    (sides.given values).given later = sides.given fun direction => values direction ++ later direction := by
  simp [given, Option.or_assoc]

theorem say_eq (sides : PerDirection α) (name : String) (value : α) :
    sides.say name value = sides.given fun direction => if name = direction.word then [value] else [] := by
  rw [say]
  split
  · rename_i h
    simp [given, h, Direction.word]
  split
  · rename_i h
    simp [given, h, Direction.word]
  · rename_i h h'
    simp [given, h, h', Direction.word]

variable {read : String → Except AttributeError α} {sides sides' : PerDirection α}

/-- The values of texts that can be read. -/
def valuesOf (read : String → Except AttributeError α) (texts : List String) : List α :=
  texts.filterMap fun text => (read text).toOption

theorem readSides_eq_ok_iff {options : List AttributeOption} :
    readSides read sides options = .ok sides' ↔
      (∀ option ∈ options, ∃ name text, option = .assigned name text ∧ ∃ value, read text = .ok value) ∧
      sides' = sides.given fun direction =>
        valuesOf read (options.filterMap (AttributeOption.textToward? direction)) := by
  induction options generalizing sides with
  | nil => simp [readSides, valuesOf, eq_comm]
  | cons option rest ih =>
    cases option with
    | word name => simp [readSides]
    | applied name options => simp [readSides]
    | assigned name text =>
      rw [readSides, Except.bind_eq_ok_iff]
      cases hread : read text with
      | error e => simp [hread]
      | ok value =>
        have hvalues : ∀ direction : Direction,
            valuesOf read (((AttributeOption.assigned name text) :: rest).filterMap
              (AttributeOption.textToward? direction)) =
            (if name = direction.word then [value] else []) ++
              valuesOf read (rest.filterMap (AttributeOption.textToward? direction)) := by
          intro direction
          by_cases hname : name = direction.word <;>
            simp [valuesOf, AttributeOption.textToward?, hname, hread, Except.toOption]
        simp [ih, say_eq, given_given, hvalues, hread]

theorem read_eq_ok_iff {last : Bool} {option : AttributeOption} :
    PerDirection.read read sides last option = .ok sides' ↔
      option.GivesTexts (fun text => ∃ value, read text = .ok value) ∧
      sides' = sides.given fun direction => valuesOf read (option.textsToward direction) := by
  cases option with
  | word name => simp [PerDirection.read, AttributeOption.GivesTexts]
  | assigned name text =>
    rw [PerDirection.read, Except.bind_eq_ok_iff]
    cases hread : read text with
    | error e => simp [AttributeOption.GivesTexts, hread]
    | ok value =>
      simp only [Except.pure_eq_ok_iff]
      simp [AttributeOption.GivesTexts, AttributeOption.textsToward, valuesOf, given, hread, Except.toOption]
  | applied name options =>
    cases options with
    | nil => simp [PerDirection.read, AttributeOption.GivesTexts]
    | cons first rest =>
      rw [PerDirection.read, readSides_eq_ok_iff]
      simp [AttributeOption.GivesTexts, AttributeOption.textsToward]

end PerDirection

/-! ## Lists of options -/

/-- The options of the attributes of a name, in order. -/
def optionsOf (name : String) (attributes : List Attribute) : List AttributeOption :=
  (attributes.filter (·.name == name)).flatMap (·.options)

/-- Some option has one of the names. -/
def mentions (names : List String) (options : List AttributeOption) : Bool :=
  options.any (names.contains ·.name)

/-- The texts that the options of a name give for a direction, in order. -/
def textsOf (name : String) (direction : Direction) (options : List AttributeOption) : List String :=
  (options.filter (·.name == name)).flatMap (·.textsToward direction)

theorem optionsOf_cons_of_eq {name : String} {entry : Attribute} (h : entry.name = name) (rest : List Attribute) :
    optionsOf name (entry :: rest) = entry.options ++ optionsOf name rest := by
  simp [optionsOf, h]

theorem optionsOf_cons_of_ne {name : String} {entry : Attribute} (h : entry.name ≠ name) (rest : List Attribute) :
    optionsOf name (entry :: rest) = optionsOf name rest := by
  simp [optionsOf, h]

theorem mentions_append (names : List String) (options later : List AttributeOption) :
    mentions names (options ++ later) = (mentions names options || mentions names later) := by
  simp [mentions]

theorem textsOf_append (name : String) (direction : Direction) (options later : List AttributeOption) :
    textsOf name direction (options ++ later) = textsOf name direction options ++ textsOf name direction later := by
  simp [textsOf]

theorem textsOf_singleton (name : String) (direction : Direction) (option : AttributeOption) :
    textsOf name direction [option] = if option.name = name then option.textsToward direction else [] := by
  by_cases h : option.name = name <;> simp [textsOf, h]

theorem mentions_singleton (names : List String) (option : AttributeOption) :
    mentions names [option] = decide (option.name ∈ names) := by
  simp [mentions]

/-- Reading a list is taking what each of its options says, if all of them can be read. -/
theorem readOptions_eq_ok_iff {σ : Type} {step : σ → Bool → AttributeOption → Except AttributeError σ}
    {Fits : AttributeOption → Prop} (after : σ → List AttributeOption → σ)
    (hnil : ∀ state, after state [] = state)
    (happend : ∀ state options later, after (after state options) later = after state (options ++ later))
    (hstep : ∀ state last option state',
      step state last option = .ok state' ↔ Fits option ∧ state' = after state [option])
    {state state' : σ} {options : List AttributeOption} :
    readOptions step state options = .ok state' ↔
      (∀ option ∈ options, Fits option) ∧ state' = after state options := by
  induction options generalizing state with
  | nil => simp [readOptions, hnil, eq_comm]
  | cons option rest ih =>
    rw [readOptions, Except.bind_eq_ok_iff, List.forall_mem_cons, and_assoc]
    constructor
    · rintro ⟨middle, hoption, hrest⟩
      obtain ⟨hfits, rfl⟩ := (hstep ..).mp hoption
      obtain ⟨hall, hstate⟩ := ih.mp hrest
      exact ⟨hfits, hall, by rw [hstate, happend, List.singleton_append]⟩
    · rintro ⟨hfits, hall, hstate⟩
      refine ⟨after state [option], (hstep ..).mpr ⟨hfits, rfl⟩, ih.mpr ⟨hall, ?_⟩⟩
      rw [hstate, happend, List.singleton_append]

/-! ## Fields -/

/-- The options that say that a field does not always travel, or in one direction only. -/
def absences : List String :=
  ["skip_serializing", "skip_serializing_if", "skip_deserializing"]

/-- A field can have the option. -/
def AttributeOption.FitsField (option : AttributeOption) : Prop :=
  match option.name with
  | "rename" => option.GivesTexts fun _ => True
  | "skip" | "skip_serializing" | "skip_deserializing" => option.IsBare
  | "flatten" => False
  | _ => option.IsWritten

namespace FieldOptions

/-- What is known of a field after more options. -/
def after (state : FieldOptions) (options : List AttributeOption) : FieldOptions where
  rename := state.rename.given fun direction => textsOf "rename" direction options
  skipped := state.skipped || mentions ["skip"] options
  maybeAbsent := state.maybeAbsent || mentions absences options

/-- What one option adds. -/
theorem after_singleton (state : FieldOptions) (option : AttributeOption) :
    state.after [option] =
      ⟨state.rename.given fun direction => if option.name = "rename" then option.textsToward direction else [],
        state.skipped || decide (option.name = "skip"), state.maybeAbsent || decide (option.name ∈ absences)⟩ := by
  simp [after, textsOf_singleton, mentions_singleton]

theorem readOption_eq_ok_iff {state state' : FieldOptions} {last : Bool} {option : AttributeOption} :
    state.readOption last option = .ok state' ↔ option.FitsField ∧ state' = state.after [option] := by
  unfold readOption AttributeOption.FitsField
  rw [after_singleton]
  split
  · rename_i hname
    rw [Except.bind_eq_ok_iff]
    simp only [Except.pure_eq_ok_iff, PerDirection.read_eq_ok_iff]
    simp [hname, absences, PerDirection.valuesOf, Except.toOption]
  -- the marks: a word alone, which is noted
  iterate 3
    · rename_i hname
      rw [Except.check_eq_ok_iff, AttributeOption.bare_eq_ok_iff]
      simp [hname, absences]
  · rename_i hname
    rw [Except.check_eq_ok_iff, AttributeOption.ignore_eq_ok_iff]
    simp [hname, absences]
  · rename_i hname
    simp [hname]
  · rename_i hrename hskip hserialize hdeserialize hif hflatten
    simp only [imp_false] at hrename hskip hserialize hdeserialize hif
    rw [Except.check_eq_ok_iff, AttributeOption.ignore_eq_ok_iff]
    simp [absences, hrename, hskip, hserialize, hdeserialize, hif]

@[simp]
theorem rename_after (state : FieldOptions) (options : List AttributeOption) (direction : Direction) :
    (state.after options).rename.toward direction =
      (textsOf "rename" direction options).getLast?.or (state.rename.toward direction) :=
  PerDirection.toward_given ..

@[simp]
theorem skipped_after (state : FieldOptions) (options : List AttributeOption) :
    (state.after options).skipped = (state.skipped || mentions ["skip"] options) := rfl

@[simp]
theorem maybeAbsent_after (state : FieldOptions) (options : List AttributeOption) :
    (state.after options).maybeAbsent = (state.maybeAbsent || mentions absences options) := rfl

theorem after_nil (state : FieldOptions) : state.after [] = state := by
  simp [after, textsOf, mentions]

theorem after_append (state : FieldOptions) (options later : List AttributeOption) :
    (state.after options).after later = state.after (options ++ later) := by
  simp [after, PerDirection.given_given, textsOf_append, mentions_append, Bool.or_assoc]

theorem readOptions_eq_ok_iff {state state' : FieldOptions} {options : List AttributeOption} :
    readOptions readOption state options = .ok state' ↔
      (∀ option ∈ options, option.FitsField) ∧ state' = state.after options :=
  Declaration.readOptions_eq_ok_iff after after_nil after_append fun _ _ _ _ => readOption_eq_ok_iff

/-- The attributes of a field can be read if all options in them fit, and say what these options say together. -/
theorem ofAttributes_eq_ok_iff {attributes : List Attribute} {state : FieldOptions} :
    ofAttributes attributes = .ok state ↔
      (∀ option ∈ optionsOf "serde" attributes, option.FitsField) ∧
      state = FieldOptions.default.after (optionsOf "serde" attributes) := by
  rw [ofAttributes]
  generalize FieldOptions.default = start
  induction attributes generalizing start with
  | nil => simp [optionsOf, after_nil, Except.pure_eq_ok_iff]
  | cons entry rest ih =>
    rw [List.foldlM_cons, Except.bind_eq_ok_iff, readAttribute]
    split
    · rename_i hname
      rw [optionsOf_cons_of_eq hname, List.forall_mem_append, and_assoc, ← after_append]
      constructor
      · rintro ⟨middle, hentry, hrest⟩
        obtain ⟨hfits, rfl⟩ := readOptions_eq_ok_iff.mp hentry
        exact ⟨hfits, (ih _).mp hrest⟩
      · rintro ⟨hfits, hrest⟩
        exact ⟨_, readOptions_eq_ok_iff.mpr ⟨hfits, rfl⟩, (ih _).mpr hrest⟩
    · rename_i hname
      simp [ih, optionsOf_cons_of_ne hname]

end FieldOptions

/-! ## Records -/

/-- A record can have the option about how it travels. -/
def AttributeOption.FitsRecord (option : AttributeOption) : Prop :=
  match option.name with
  | "rename_all" => option.GivesTexts fun text => (RenameRule.ofName? text).isSome
  | "transparent" => option.IsBare
  | _ => option.IsWritten

/-- A record can have the option about how it is described. -/
def AttributeOption.FitsDescription (option : AttributeOption) : Prop :=
  option.name = "inline" ∧ option.IsBare

/-- The rules that options give for the names toward a direction, in order. -/
def rulesOf (direction : Direction) (options : List AttributeOption) : List RenameRule :=
  (textsOf "rename_all" direction options).filterMap RenameRule.ofName?

namespace RecordOptions

/-- What is known of a record after more options of both kinds. -/
def after (state : RecordOptions) (wire description : List AttributeOption) : RecordOptions where
  renameAll := state.renameAll.given fun direction => rulesOf direction wire
  transparent := state.transparent || mentions ["transparent"] wire
  inline := state.inline || mentions ["inline"] description

@[simp]
theorem renameAll_after (state : RecordOptions) (wire description : List AttributeOption) (direction : Direction) :
    (state.after wire description).renameAll.toward direction =
      (rulesOf direction wire).getLast?.or (state.renameAll.toward direction) :=
  PerDirection.toward_given ..

@[simp]
theorem transparent_after (state : RecordOptions) (wire description : List AttributeOption) :
    (state.after wire description).transparent = (state.transparent || mentions ["transparent"] wire) := rfl

@[simp]
theorem inline_after (state : RecordOptions) (wire description : List AttributeOption) :
    (state.after wire description).inline = (state.inline || mentions ["inline"] description) := rfl

theorem after_nil (state : RecordOptions) : state.after [] [] = state := by
  simp [after, rulesOf, textsOf, mentions]

theorem after_append (state : RecordOptions) (wire wire' description description' : List AttributeOption) :
    (state.after wire description).after wire' description' = state.after (wire ++ wire') (description ++ description') := by
  simp [after, rulesOf, PerDirection.given_given, textsOf_append, mentions_append, Bool.or_assoc]

theorem valuesOf_readRule (texts : List String) :
    PerDirection.valuesOf readRule texts = texts.filterMap RenameRule.ofName? := by
  refine List.filterMap_congr fun text _ => ?_
  cases h : RenameRule.ofName? text <;> simp [readRule, h, Except.toOption]

theorem exists_readRule_iff {text : String} :
    (∃ rule, readRule text = .ok rule) ↔ (RenameRule.ofName? text).isSome := by
  cases h : RenameRule.ofName? text <;> simp [readRule, h]

theorem readWire_eq_ok_iff {state state' : RecordOptions} {last : Bool} {option : AttributeOption} :
    state.readWire last option = .ok state' ↔ option.FitsRecord ∧ state' = state.after [option] [] := by
  unfold readWire AttributeOption.FitsRecord
  split
  · rename_i hname
    rw [Except.bind_eq_ok_iff]
    simp only [Except.pure_eq_ok_iff, PerDirection.read_eq_ok_iff, valuesOf_readRule, exists_readRule_iff]
    simp [hname, after, rulesOf, textsOf_singleton, mentions]
  · rename_i hname
    rw [Except.check_eq_ok_iff, AttributeOption.bare_eq_ok_iff]
    simp [hname, after, rulesOf, textsOf_singleton, mentions]
  · rename_i hrename htransparent
    simp only [imp_false] at hrename htransparent
    rw [Except.check_eq_ok_iff, AttributeOption.ignore_eq_ok_iff]
    simp [after, rulesOf, textsOf_singleton, mentions, hrename, htransparent]

theorem readDescribe_eq_ok_iff {state state' : RecordOptions} {last : Bool} {option : AttributeOption} :
    state.readDescribe last option = .ok state' ↔ option.FitsDescription ∧ state' = state.after [] [option] := by
  unfold readDescribe AttributeOption.FitsDescription
  split
  · rename_i hname
    rw [Except.check_eq_ok_iff, AttributeOption.bare_eq_ok_iff]
    simp [hname, after, rulesOf, textsOf, mentions]
  · rename_i hname
    simp [show option.name ≠ "inline" from hname]

theorem readWire_list_eq_ok_iff {state state' : RecordOptions} {options : List AttributeOption} :
    readOptions readWire state options = .ok state' ↔
      (∀ option ∈ options, option.FitsRecord) ∧ state' = state.after options [] :=
  readOptions_eq_ok_iff (fun state options => state.after options []) after_nil
    (fun state options later => after_append state options later [] []) fun _ _ _ _ => readWire_eq_ok_iff

theorem readDescribe_list_eq_ok_iff {state state' : RecordOptions} {options : List AttributeOption} :
    readOptions readDescribe state options = .ok state' ↔
      (∀ option ∈ options, option.FitsDescription) ∧ state' = state.after [] options :=
  readOptions_eq_ok_iff (fun state options => state.after [] options) after_nil
    (fun state options later => after_append state [] [] options later) fun _ _ _ _ => readDescribe_eq_ok_iff

/-- The attributes of a record can be read if all options in them fit, and say what these options say together. -/
theorem ofAttributes_eq_ok_iff {attributes : List Attribute} {state : RecordOptions} :
    ofAttributes attributes = .ok state ↔
      (∀ option ∈ optionsOf "serde" attributes, option.FitsRecord) ∧
      (∀ option ∈ optionsOf "describe" attributes, option.FitsDescription) ∧
      state = RecordOptions.default.after (optionsOf "serde" attributes) (optionsOf "describe" attributes) := by
  rw [ofAttributes]
  generalize RecordOptions.default = start
  induction attributes generalizing start with
  | nil => simp [optionsOf, after_nil, Except.pure_eq_ok_iff]
  | cons entry rest ih =>
    rw [List.foldlM_cons, Except.bind_eq_ok_iff, readAttribute]
    simp only [ih]
    split
    · rename_i hname
      rw [optionsOf_cons_of_eq hname, optionsOf_cons_of_ne (by simp [hname])]
      simp only [readWire_list_eq_ok_iff, List.forall_mem_append]
      constructor
      · rintro ⟨_, ⟨hfits, rfl⟩, hrest, hdescription, hstate⟩
        exact ⟨⟨hfits, hrest⟩, hdescription, by rw [hstate, after_append, List.nil_append]⟩
      · rintro ⟨⟨hfits, hrest⟩, hdescription, hstate⟩
        exact ⟨_, ⟨hfits, rfl⟩, hrest, hdescription, by rw [hstate, after_append, List.nil_append]⟩
    · rename_i hname
      rw [optionsOf_cons_of_ne (by simp [hname]), optionsOf_cons_of_eq hname]
      simp only [readDescribe_list_eq_ok_iff, List.forall_mem_append]
      constructor
      · rintro ⟨_, ⟨hfits, rfl⟩, hwire, hrest, hstate⟩
        exact ⟨hwire, ⟨hfits, hrest⟩, by rw [hstate, after_append, List.nil_append]⟩
      · rintro ⟨hwire, ⟨hfits, hrest⟩, hstate⟩
        exact ⟨_, ⟨hfits, rfl⟩, hwire, hrest, by rw [hstate, after_append, List.nil_append]⟩
    · rename_i hserde hdescribe
      rw [optionsOf_cons_of_ne hserde, optionsOf_cons_of_ne hdescribe]
      simp

end RecordOptions

end TypedRpc.Declaration
