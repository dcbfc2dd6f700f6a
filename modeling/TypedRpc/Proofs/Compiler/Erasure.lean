import TypedRpc.Proofs.Compiler.Rendering

/-!
# Shapes

The shape of a descriptor is what a client can tell of it: its type expression with the keys of composites in the place
of names. It depends on no compiler, and can be read off every rendering by calling defined types by their keys again
(`shape_of_rendered`).
-/

namespace TypedRpc

open TypedRpc.TypeScript

namespace TypeScript

mutual

/-- The type expression with other names for the defined types. -/
def TypeExpr.rename (f : String → String) : TypeExpr → TypeExpr
  | .keyword word => .keyword word
  | .reference name => .reference (f name)
  | .nullableArray element => .nullableArray (element.rename f)
  | .object members => .object (Member.renameList f members)

/-- The members with other names for the defined types. -/
def Member.renameList (f : String → String) : List Member → List Member
  | [] => []
  | member :: rest => member.rename f :: Member.renameList f rest

/-- The member with other names for the defined types. -/
def Member.rename (f : String → String) : Member → Member
  | .mk name optional type => .mk name optional (type.rename f)

end

end TypeScript

/-- The shape of a descriptor. Timestamps are strings, and layers that may be missing are gone. A composite that is
defined by name is its key; one that is written out is its fields in order, each with its name on the wire, whether it
may be missing, and the shape of its type. What is written out inside itself without end has no shape. -/
def Descriptor.shape? (table : SlotTable) (d : Descriptor) : Option TypeExpr :=
  Compiler.renderType table some d

/-- The shapes of fields in order, each with its name on the wire and whether it may be missing. -/
def Field.shapes? (table : SlotTable) (fields : List Field) : Option (List Member) :=
  Compiler.renderMembers some (Compiler.renderSlot table some Compiler.inlineLimit) fields

example : (Descriptor.shape? [] (.optional (.inline (.listed
    [.plain "at" (.wrapper .timestamp), .plain "by" (.sequence (.named "a.User" (.deferred "user")))])))).map
      TypeExpr.print = some "\x7b at?: string; by: (a::User[] | null) \x7d" := by
  decide +kernel

namespace Compiler

/-! ## Renaming what was rendered -/

section

variable {naming naming' : Naming} {f : String → String} {slot slot' : String → Option (List Member)}

mutual

/-- Where one naming gives the names of another one in other words, so does rendering. -/
theorem renderWith_rename (hnaming : ∀ key name, naming key = some name → naming' key = some (f name))
    (hslot : ∀ s members, slot s = some members → slot' s = some (Member.renameList f members)) :
    ∀ (d : Descriptor) (t : TypeExpr), renderWith naming slot d = some t →
      renderWith naming' slot' d = some (t.rename f)
  | .scalar _, t, h | .timestamp, t, h | .unknown, t, h => by
    cases h
    rfl
  | .sequence element, t, h => by
    rw [renderWith] at h ⊢
    obtain ⟨t, helement, rfl⟩ := Option.map_eq_some_iff.mp h
    rw [renderWith_rename hnaming hslot element t helement]
    rfl
  | .optional inner, t, h => renderWith_rename hnaming hslot inner t h
  | .wrapper inner, t, h => renderWith_rename hnaming hslot inner t h
  | .named name fields, t, h => by
    rw [renderWith] at h ⊢
    split at h <;> rename_i hpath
    · obtain ⟨members, hfields, rfl⟩ := Option.map_eq_some_iff.mp h
      rw [if_pos hpath, renderFields_rename hnaming hslot fields members hfields]
      rfl
    · obtain ⟨name, hname, rfl⟩ := Option.map_eq_some_iff.mp h
      rw [if_neg hpath, hnaming _ name hname]
      rfl
  | .inline fields, t, h => by
    rw [renderWith] at h ⊢
    obtain ⟨members, hfields, rfl⟩ := Option.map_eq_some_iff.mp h
    rw [renderFields_rename hnaming hslot fields members hfields]
    rfl

theorem renderFields_rename (hnaming : ∀ key name, naming key = some name → naming' key = some (f name))
    (hslot : ∀ s members, slot s = some members → slot' s = some (Member.renameList f members)) :
    ∀ (fields : FieldList) (members : List Member), renderFields naming slot fields = some members →
      renderFields naming' slot' fields = some (Member.renameList f members)
  | .listed fields, members, h => renderMembers_rename hnaming hslot fields members h
  | .deferred name, members, h => hslot name members h

theorem renderMembers_rename (hnaming : ∀ key name, naming key = some name → naming' key = some (f name))
    (hslot : ∀ s members, slot s = some members → slot' s = some (Member.renameList f members)) :
    ∀ (fields : List Field) (members : List Member), renderMembers naming slot fields = some members →
      renderMembers naming' slot' fields = some (Member.renameList f members)
  | [], members, h => by
    cases h
    rfl
  | field :: rest, members, h => by
    rw [renderMembers] at h ⊢
    obtain ⟨member, hfield, hrest⟩ := Option.bind_eq_some_iff.mp h
    obtain ⟨members, hmembers, rfl⟩ := Option.map_eq_some_iff.mp hrest
    rw [renderField_rename hnaming hslot field member hfield, Option.bind_some,
      renderMembers_rename hnaming hslot rest members hmembers]
    rfl

theorem renderField_rename (hnaming : ∀ key name, naming key = some name → naming' key = some (f name))
    (hslot : ∀ s members, slot s = some members → slot' s = some (Member.renameList f members)) :
    ∀ (field : Field) (member : Member), renderField naming slot field = some member →
      renderField naming' slot' field = some (member.rename f)
  | .mk wireName type required, member, h => by
    rw [renderField] at h ⊢
    obtain ⟨t, htype, rfl⟩ := Option.map_eq_some_iff.mp h
    rw [renderWith_rename hnaming hslot type t htype]
    rfl

end

theorem renderSlot_rename {table : SlotTable}
    (hnaming : ∀ key name, naming key = some name → naming' key = some (f name)) (depth : Nat) :
    ∀ s members, renderSlot table naming depth s = some members →
      renderSlot table naming' depth s = some (Member.renameList f members) := by
  induction depth with
  | zero =>
    intro s members h
    cases h
  | succ depth ih => exact fun s => renderMembers_rename hnaming ih (table.fields s)

end

/-! ## Shapes of what was rendered -/

/-- The key to which a name was given. -/
def keyOfName (c : Compiler) (name : String) : String :=
  (c.owners.lookup name).getD ""

theorem Coherent.keyOfName {c : Compiler} (hc : c.Coherent) {key name : String} (h : c.naming key = some name) :
    some key = some (c.keyOfName name) := by
  rw [Compiler.keyOfName, hc.inverse.mp h]
  rfl

theorem shape_of_rendered {table : SlotTable} {c : Compiler} (hc : c.Coherent) {d : Descriptor} {t : TypeExpr}
    (h : renderType table c.naming d = some t) : d.shape? table = some (t.rename c.keyOfName) :=
  renderWith_rename (fun _ _ => hc.keyOfName) (renderSlot_rename (fun _ _ => hc.keyOfName) inlineLimit) d t h

theorem shapes_of_rendered {table : SlotTable} {c : Compiler} (hc : c.Coherent) {fields : List Field}
    {definition : Definition} {name : String} (h : renderDefinition table c.naming name fields = some definition) :
    Field.shapes? table fields = some (Member.renameList c.keyOfName definition.members) := by
  obtain ⟨members, hmembers, rfl⟩ := Option.map_eq_some_iff.mp h
  exact renderMembers_rename (fun _ _ => hc.keyOfName) (renderSlot_rename (fun _ _ => hc.keyOfName) inlineLimit)
    fields members hmembers

end Compiler

end TypedRpc
