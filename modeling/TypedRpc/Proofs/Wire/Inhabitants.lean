import Mathlib.Data.List.Nodup
import TypedRpc.Proofs.Compiler.Rendering
import TypedRpc.Proofs.Descriptor.Graph
import TypedRpc.Proofs.KeyedList
import TypedRpc.Wire.Shape

/-!
# Inhabitants of shapes

The values of a shape, and the values among them in which something is missing where nobody is told of it: only fields
and collections say that they may be null. The descriptors of shapes lead to descriptors of shapes, and every record
that they reach is the declared one.
-/

namespace TypedRpc.Wire

open TypedRpc.TypeScript

/-! ## Values of a shape -/

/-- The members that a record writes, from its fields with their values; some fields are not written. -/
def writtenMembers (fields : List (FieldDecl × Option Value)) : List (String × Value) :=
  fields.filterMap fun (field, value?) => value?.map (field.name, ·)

/-- The values of a shape. -/
inductive Inhabits (declared : Declarations) : Shape → Value → Prop where
  | json {value : Json.Value} : Inhabits declared .json (.json value)
  | unit : Inhabits declared .unit .unit
  | empty : Inhabits declared .empty (.record [])
  | text {s : String} : Inhabits declared .text (.text s)
  | character {c : Char} : Inhabits declared .character (.text (String.singleton c))
  | boolean {b : Bool} : Inhabits declared .boolean (.bool b)
  | natural {bits n : Nat} (hlt : n < Nat.pow 2 bits) : Inhabits declared (.natural bits) (.integer n)
  | integer {bits : Nat} {i : Int} (hle : -(Nat.pow 2 (bits - 1) : Int) ≤ i) (hlt : i < (Nat.pow 2 (bits - 1) : Int)) :
      Inhabits declared (.integer bits) (.integer i)
  | float {x : Binary64} : Inhabits declared .float (.float x)
  | timestamp {s : String} : Inhabits declared .timestamp (.text s)
  | none {inner : Shape} : Inhabits declared (.option inner) .absent
  | some {inner : Shape} {v : Value} (hinner : Inhabits declared inner v) :
      Inhabits declared (.option inner) (.present v)
  | notChosen {inner : Shape} : Inhabits declared (.choice inner) .absent
  | chosen {inner : Shape} {v : Value} (hinner : Inhabits declared inner v) :
      Inhabits declared (.choice inner) (.present v)
  | list {element : Shape} {items : List Value} (hitems : ∀ item ∈ items, Inhabits declared element item) :
      Inhabits declared (.list element) (.list items)
  | table {element : Shape} {entries : List (String × Value)}
      (hentries : ∀ name v, (name, v) ∈ entries → Inhabits declared element v) :
      Inhabits declared (.table element) (.table entries)
  /-- A field that is not written is one that may be left out. -/
  | record {name : String} {decl : RecordDecl} {fields : List (FieldDecl × Option Value)}
      (hdecl : declared.lookup name = .some decl) (hfields : fields.map (·.1) = decl.fields)
      (homitted : ∀ field, (field, Option.none) ∈ fields → field.omitsAbsent = true)
      (hvalues : ∀ field v, (field, Option.some v) ∈ fields → Inhabits declared field.shape v) :
      Inhabits declared (.record name) (.record (writtenMembers fields))

/-- The value is missing, behind whatever layers that may be missing. -/
def Value.isMissing : Value → Bool
  | .absent => true
  | .present v => v.isMissing
  | _ => false

/-- The type of the shape says that it may be null wherever it stands. -/
def Shape.takesNull (declared : Declarations) : Shape → Bool
  | .json | .unit | .table _ | .list _ => true
  | .option inner | .choice inner => inner.takesNull declared
  | .record name => (declared.lookup name).isNone
  | _ => false

/-- Something is missing in the value that is no field and does not take null: nobody is told of it. -/
inductive Stray (declared : Declarations) : Shape → Value → Prop where
  | none {inner : Shape} (h : inner.takesNull declared = false) : Stray declared (.option inner) .absent
  | some {inner : Shape} {v : Value} (h : Stray declared inner v) : Stray declared (.option inner) (.present v)
  | notChosen {inner : Shape} (h : inner.takesNull declared = false) : Stray declared (.choice inner) .absent
  | chosen {inner : Shape} {v : Value} (h : Stray declared inner v) : Stray declared (.choice inner) (.present v)
  | item {element : Shape} {items : List Value} {item : Value} (hitem : item ∈ items)
      (h : Stray declared element item) : Stray declared (.list element) (.list items)
  /-- A field itself may be missing. -/
  | field {name : String} {decl : RecordDecl} {field : FieldDecl} {v : Value} {members : List (String × Value)}
      (hdecl : declared.lookup name = .some decl) (hfield : field ∈ decl.fields) (hmember : (field.name, v) ∈ members)
      (hthere : v.isMissing = false) (h : Stray declared field.shape v) :
      Stray declared (.record name) (.record members)

namespace Stray

variable {declared : Declarations} {inner element : Shape} {v : Value} {items : List Value}

theorem none_iff : Stray declared (.option inner) .absent ↔ ¬ inner.takesNull declared = true := by
  rw [Bool.not_eq_true]
  refine ⟨fun h => ?_, .none⟩
  cases h with
  | none h => exact h

theorem notChosen_iff : Stray declared (.choice inner) .absent ↔ ¬ inner.takesNull declared = true := by
  rw [Bool.not_eq_true]
  refine ⟨fun h => ?_, .notChosen⟩
  cases h with
  | notChosen h => exact h

theorem some_iff : Stray declared (.option inner) (.present v) ↔ Stray declared inner v := by
  refine ⟨fun h => ?_, .some⟩
  cases h with
  | some h => exact h

theorem chosen_iff : Stray declared (.choice inner) (.present v) ↔ Stray declared inner v := by
  refine ⟨fun h => ?_, .chosen⟩
  cases h with
  | chosen h => exact h

theorem list_iff : Stray declared (.list element) (.list items) ↔ ∃ item ∈ items, Stray declared element item := by
  refine ⟨fun h => ?_, fun ⟨_, hitem, h⟩ => .item hitem h⟩
  cases h with
  | item hitem h => exact ⟨_, hitem, h⟩

end Stray

/-! ## Declarations -/

/-- Records go by the names of their modules and types, and no two fields of a record have one name. -/
structure Declarations.WellFormed (declared : Declarations) : Prop where
  qualified : ∀ name record, (name, record) ∈ declared → keyOf (segments name) = name
  fields : ∀ name record, (name, record) ∈ declared → (record.fields.map (·.name)).Nodup

section

variable {declared : Declarations} {name : String} {record : RecordDecl} {shape : Shape} {field : FieldDecl}

theorem slots_fields (h : declared.lookup name = some record) :
    declared.slots.fields name = record.fields.map (FieldDecl.describe declared) := by
  have hslots : declared.slots.lookup name = (declared.lookup name).map fun record =>
      record.fields.map (FieldDecl.describe declared) :=
    lookup_map_values (fun record : RecordDecl => record.fields.map (FieldDecl.describe declared)) declared name
  rw [SlotTable.fields, hslots, h]
  rfl

theorem describe_type : (field.describe declared).type = field.shape.describe declared := by
  unfold FieldDecl.describe
  split <;> rfl

theorem describe_wireName : (field.describe declared).wireName = field.name := by
  unfold FieldDecl.describe
  split <;> rfl

/-- A client is told that a field may be missing when it may be left out, or when its shape is a layer that may be
missing. -/
theorem describe_isOptional :
    (field.describe declared).isOptional = (field.omitsAbsent || (field.shape.describe declared).isOptional) := by
  unfold FieldDecl.describe
  split <;> rename_i h <;> simp [Field.leaveable, Field.plain, Field.isOptional, Field.required, Field.type, h]

/-- The parts of the descriptor of a shape are descriptors of shapes. -/
theorem describe_parts {part : Descriptor} (h : part ∈ (shape.describe declared).parts declared.slots) :
    ∃ inner, part = Shape.describe declared inner := by
  cases shape with
  | option inner | list inner | choice inner => exact ⟨inner, List.mem_singleton.mp h⟩
  | record name =>
    rw [Shape.describe] at h
    split at h
    · rename_i record hrecord
      have hfields : part ∈ (declared.slots.fields name).map Field.type := by
        split at h <;> exact h
      rw [slots_fields hrecord, List.map_map] at hfields
      obtain ⟨field, -, rfl⟩ := List.mem_map.mp hfields
      exact ⟨field.shape, describe_type⟩
    · exact absurd h List.not_mem_nil
  | _ => exact absurd h List.not_mem_nil

/-- A descriptor of a shape that is defined by name is that of a declared record. -/
theorem describe_of_path (h : (shape.describe declared).path ≠ []) :
    ∃ name record, declared.lookup name = some record ∧ shape.describe declared = .named name (.deferred name) := by
  cases shape with
  | record name =>
    rw [Shape.describe] at h ⊢
    split at h
    · rename_i record hrecord
      split at h
      · exact absurd rfl h
      · rename_i hinline
        exact ⟨name, record, hrecord, by rw [if_neg hinline]⟩
    · exact absurd rfl h
  | _ => exact absurd rfl h

/-- What the descriptors of shapes lead to and is defined by name is a declared record. -/
theorem record_of_namedFrom {shapes : List Shape} {d : Descriptor}
    (h : Descriptor.NamedFrom declared.slots (shapes.map (Shape.describe declared)) d) :
    ∃ name record, declared.lookup name = some record ∧ d = .named name (.deferred name) := by
  have hshape : ∃ shape, d = Shape.describe declared shape := by
    refine h.2.mem_of_closed (S := fun d => ∃ shape, d = Shape.describe declared shape) (fun root hroot => ?_) ?_
    · obtain ⟨shape, -, rfl⟩ := List.mem_map.mp hroot
      exact ⟨shape, rfl⟩
    · rintro d ⟨shape, rfl⟩ part hpart
      exact describe_parts hpart
  obtain ⟨shape, rfl⟩ := hshape
  exact describe_of_path h.1

end

/-! ## Values that are missing -/

section

variable {declared : Declarations} {shape : Shape} {v : Value}

theorem Value.encode_of_isMissing (h : v.isMissing = true) : v.encode = .null := by
  fun_induction Value.isMissing v with
  | case1 => rfl
  | case2 v ih => exact ih h
  | case3 => cases h

/-- Only behind a layer can a value be missing. -/
theorem Inhabits.isOptional (hv : Inhabits declared shape v) (h : v.isMissing = true) :
    (shape.describe declared).isOptional = true := by
  cases hv with
  | none | some | notChosen | chosen => rfl
  | _ => cases h

/-- Null is written for what is missing, and where it is taken. -/
theorem Inhabits.encode_null (hv : Inhabits declared shape v) (h : v.encode = .null) :
    v.isMissing = true ∨ ¬ Stray declared shape v := by
  induction hv with
  | unit | json => exact .inr nofun
  | none | notChosen => exact .inl rfl
  | some _ ih => exact (ih h).imp id (mt Stray.some_iff.mp)
  | chosen _ ih => exact (ih h).imp id (mt Stray.chosen_iff.mp)
  | _ => cases h

end

end TypedRpc.Wire
