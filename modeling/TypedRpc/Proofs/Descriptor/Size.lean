import Mathlib.Data.Finset.Card
import TypedRpc.Compiler.Compile

/-!
# What a descriptor holds

The keys that occur in a descriptor and in the slots of a table, and how large the descriptor and the slots are. A
run on the descriptor meets no other keys and opens no larger lists, however often it comes by a slot.
-/

namespace TypedRpc

open TypedRpc.TypeScript

/-! ## Names in sight -/

mutual

/-- The keys of the named composites in a descriptor. -/
def Descriptor.keys : Descriptor → List String
  | .scalar _ | .timestamp | .unknown => []
  | .sequence element => element.keys
  | .optional inner => inner.keys
  | .wrapper inner => inner.keys
  | .named name fields => keyOf (segments name) :: fields.keys
  | .inline fields => fields.keys

/-- The keys of the named composites in a field list; those behind a slot are not among them. -/
def FieldList.keys : FieldList → List String
  | .listed fields => Field.keysList fields
  | .deferred _ => []

/-- The keys of the named composites in a list of fields. -/
def Field.keysList : List Field → List String
  | [] => []
  | field :: rest => field.keys ++ Field.keysList rest

/-- The keys of the named composites in the type of a field. -/
def Field.keys : Field → List String
  | .mk _ type _ => type.keys

end

/-- The keys of the named composites in all slots. -/
def SlotTable.keys (table : SlotTable) : List String :=
  table.flatMap fun entry => Field.keysList entry.2

mutual

theorem Descriptor.length_keys : ∀ d : Descriptor, d.keys.length = d.namedCount
  | .scalar _ | .timestamp | .unknown => rfl
  | .sequence element => element.length_keys
  | .optional inner => inner.length_keys
  | .wrapper inner => inner.length_keys
  | .named _ fields => congrArg (· + 1) fields.length_keys
  | .inline fields => fields.length_keys

theorem FieldList.length_keys : ∀ fields : FieldList, fields.keys.length = fields.namedCount
  | .listed fields => Field.length_keysList fields
  | .deferred _ => rfl

theorem Field.length_keysList : ∀ fields : List Field, (Field.keysList fields).length = Field.namedCountList fields
  | [] => rfl
  | field :: rest => by
    rw [Field.keysList, List.length_append, Field.length_keys field, Field.length_keysList rest,
      Field.namedCountList]

theorem Field.length_keys : ∀ field : Field, field.keys.length = field.namedCount
  | .mk _ type _ => type.length_keys

end

theorem SlotTable.length_keys (table : SlotTable) : table.keys.length = table.namedCount := by
  induction table with
  | nil => rfl
  | cons entry table ih =>
    have hrest : SlotTable.namedCount (entry :: table) = Field.namedCountList entry.2 + SlotTable.namedCount table :=
      rfl
    rw [hrest, ← ih, ← Field.length_keysList, ← List.length_append]
    rfl

theorem FieldList.keys_subset (table : SlotTable) (fields : FieldList) :
    Field.keysList (fields.resolve table) ⊆ fields.keys ++ table.keys := by
  cases fields with
  | listed fields => exact List.subset_append_left ..
  | deferred slot =>
    rw [FieldList.resolve, SlotTable.fields]
    cases hslot : table.lookup slot with
    | none => exact List.nil_subset _
    | some fields =>
      obtain ⟨before, after, rfl, -⟩ := List.lookup_eq_some_iff.mp hslot
      intro key hkey
      exact List.mem_flatMap.mpr ⟨(slot, fields), by simp, hkey⟩

/-- The different keys in a descriptor and in the slots. -/
def Descriptor.keysInSight (table : SlotTable) (d : Descriptor) : Finset String :=
  (d.keys ++ table.keys).toFinset

/-- There are no more different keys than composites with a key. -/
theorem Descriptor.card_keysInSight_le (table : SlotTable) (d : Descriptor) :
    (d.keysInSight table).card ≤ d.namedCount + table.namedCount := by
  rw [← d.length_keys, ← table.length_keys, ← List.length_append]
  exact List.toFinset_card_le _

/-! ## Sizes -/

mutual

/-- The nodes of a descriptor; those behind a slot are not among them. -/
def Descriptor.size : Descriptor → Nat
  | .scalar _ | .timestamp | .unknown => 1
  | .sequence element => element.size + 1
  | .optional inner => inner.size + 1
  | .wrapper inner => inner.size + 1
  | .named _ fields => fields.size + 1
  | .inline fields => fields.size + 1

def FieldList.size : FieldList → Nat
  | .listed fields => Field.sizeList fields
  | .deferred _ => 0

def Field.sizeList : List Field → Nat
  | [] => 0
  | field :: rest => field.size + Field.sizeList rest

def Field.size : Field → Nat
  | .mk _ type _ => type.size

end

/-- The size of the largest list in a slot. -/
def SlotTable.size (table : SlotTable) : Nat :=
  table.foldr (fun entry largest => max (Field.sizeList entry.2) largest) 0

theorem Descriptor.size_pos (d : Descriptor) : 0 < d.size := by
  cases d <;> simp [Descriptor.size]

theorem SlotTable.sizeList_fields_le (table : SlotTable) (slot : String) :
    Field.sizeList (table.fields slot) ≤ table.size := by
  induction table with
  | nil => exact Nat.zero_le _
  | cons entry rest ih =>
    obtain ⟨name, fields⟩ := entry
    have hsize : SlotTable.size ((name, fields) :: rest) = max (Field.sizeList fields) (SlotTable.size rest) := rfl
    rw [hsize]
    by_cases hslot : slot = name
    · have hfields : SlotTable.fields ((name, fields) :: rest) slot = fields := by
        simp [SlotTable.fields, hslot]
      rw [hfields]
      exact Nat.le_max_left ..
    · have hfields : SlotTable.fields ((name, fields) :: rest) slot = SlotTable.fields rest slot := by
        have hne : (slot == name) = false := beq_false_of_ne hslot
        simp only [SlotTable.fields, List.lookup_cons, hne]
      rw [hfields]
      exact Nat.le_trans ih (Nat.le_max_right ..)

end TypedRpc
