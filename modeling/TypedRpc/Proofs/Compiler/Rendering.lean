import Mathlib.Data.List.Forall2
import TypedRpc.Proofs.Compiler.Derivation

/-!
# Rendering without a state

Once every key has its name, the type expression of a descriptor can be read off the descriptor: a composite
that is defined by name is a reference whatever its fields are. A compiler answers the same expressions while it
is still handing out names (`Compiles.rendered`), and this stays so under every naming that extends its own.
-/

namespace TypedRpc.Compiler

open TypedRpc.TypeScript

/-- The TypeScript names of keys. -/
abbrev Naming := String → Option String

mutual

/-- The type expression of a descriptor, given the names of keys and the members for a slot. -/
def renderWith (naming : Naming) (slot : String → Option (List Member)) : Descriptor → Option TypeExpr
  | .scalar kind => some (.keyword (scalarKeyword kind))
  | .timestamp => some (.keyword .string)
  | .unknown => some (.keyword .any)
  | .sequence element => (renderWith naming slot element).map .nullableArray
  | .optional inner => renderWith naming slot inner
  | .wrapper inner => renderWith naming slot inner
  | .named name fields =>
    if segments name = [] then (renderFields naming slot fields).map .object
    else (naming (keyOf (segments name))).map .reference
  | .inline fields => (renderFields naming slot fields).map .object

/-- The members for the fields of a list. -/
def renderFields (naming : Naming) (slot : String → Option (List Member)) : FieldList → Option (List Member)
  | .listed fields => renderMembers naming slot fields
  | .deferred name => slot name

/-- The members for fields, in order. -/
def renderMembers (naming : Naming) (slot : String → Option (List Member)) : List Field → Option (List Member)
  | [] => some []
  | field :: rest =>
    (renderField naming slot field).bind fun member => (renderMembers naming slot rest).map (member :: ·)

/-- The member for a field. -/
def renderField (naming : Naming) (slot : String → Option (List Member)) : Field → Option Member
  | .mk wireName type required =>
    (renderWith naming slot type).map (.mk wireName (!required || type.isOptional))

end

/-- The members for the fields in a slot, with at most `depth` slots open inside each other. -/
def renderSlot (table : SlotTable) (naming : Naming) : Nat → String → Option (List Member)
  | 0, _ => none
  | depth + 1, slot => renderMembers naming (renderSlot table naming depth) (table.fields slot)

/-- The type expression of a descriptor. A slot is opened only inside a composite that is written out, so there
are no more open slots than such composites. -/
def renderType (table : SlotTable) (naming : Naming) (d : Descriptor) : Option TypeExpr :=
  renderWith naming (renderSlot table naming inlineLimit) d

/-- The definition of a composite with these fields. -/
def renderDefinition (table : SlotTable) (naming : Naming) (name : String) (fields : List Field) :
    Option Definition :=
  (renderMembers naming (renderSlot table naming inlineLimit) fields).map (⟨name, ·⟩)

/-! ## Each kind of descriptor -/

section

variable {table : SlotTable} {naming : Naming} {slot : String → Option (List Member)} {d : Descriptor}

theorem renderWith_keyword {word : Keyword} (h : d.keyword? = some word) :
    renderWith naming slot d = some (.keyword word) := by
  cases d with
  | scalar kind => cases kind <;> cases h <;> rfl
  | timestamp => cases h; rfl
  | unknown => cases h; rfl
  | _ => cases h

theorem renderWith_path (h : d.path ≠ []) : renderWith naming slot d = (naming d.key).map .reference := by
  cases d with
  | named name fields =>
    change segments name ≠ [] at h
    rw [renderWith, if_neg h]
    rfl
  | _ => exact absurd rfl h

theorem renderMembers_of_forall₂ {fields : List Field} {types : List TypeExpr}
    (h : List.Forall₂ (fun d t => renderWith naming slot d = some t) (fields.map Field.type) types) :
    renderMembers naming slot fields = some (Field.members fields types) := by
  induction fields generalizing types with
  | nil =>
    cases h
    rfl
  | cons field rest ih =>
    obtain ⟨wireName, type, required⟩ := field
    obtain ⟨_, _⟩ | ⟨htype, hrest⟩ := h
    simp only [Field.type] at htype
    simp only [renderMembers, renderField, htype, ih hrest]
    rfl

/-- The members are those of the fields, each with the rendering of its type. -/
theorem mem_of_renderMembers {fields : List Field} {members : List Member}
    (h : renderMembers naming slot fields = some members) :
    (∀ field ∈ fields, ∃ t, renderWith naming slot field.type = some t ∧ field.member t ∈ members) ∧
    ∀ member ∈ members, ∃ field ∈ fields, ∃ t,
      renderWith naming slot field.type = some t ∧ member = field.member t := by
  induction fields generalizing members with
  | nil =>
    cases h
    exact ⟨nofun, nofun⟩
  | cons field rest ih =>
    obtain ⟨wireName, type, required⟩ := field
    rw [renderMembers, renderField] at h
    obtain ⟨member, hmember, hrest⟩ := Option.bind_eq_some_iff.mp h
    obtain ⟨t, ht, rfl⟩ := Option.map_eq_some_iff.mp hmember
    obtain ⟨members, hmembers, rfl⟩ := Option.map_eq_some_iff.mp hrest
    obtain ⟨hfields, hmade⟩ := ih hmembers
    constructor
    · refine List.forall_mem_cons.mpr ⟨⟨t, ht, List.mem_cons_self⟩, fun field hfield => ?_⟩
      obtain ⟨u, hu, hmem⟩ := hfields field hfield
      exact ⟨u, hu, List.mem_cons_of_mem _ hmem⟩
    · refine List.forall_mem_cons.mpr ⟨⟨_, List.mem_cons_self, t, ht, rfl⟩, fun member hmember => ?_⟩
      obtain ⟨field, hfield, hu⟩ := hmade member hmember
      exact ⟨field, List.mem_cons_of_mem _ hfield, hu⟩

/-- A deferred list takes one of the slots that may be open. -/
theorem renderWith_inline {members : List Member} {depth : Nat} (hcomposite : d.isComposite = true)
    (hpath : d.path = []) (hdepth : 0 < depth)
    (hfields : ∀ depth', depth ≤ depth' + 1 →
      renderMembers naming (renderSlot table naming depth') (d.fields table) = some members) :
    renderWith naming (renderSlot table naming depth) d = some (.object members) := by
  have hlist : ∀ fields : FieldList, d.fields table = fields.resolve table →
      renderFields naming (renderSlot table naming depth) fields = some members := by
    intro fields heq
    cases fields with
    | listed fields => exact (heq ▸ hfields) depth (Nat.le_succ depth)
    | deferred name =>
      obtain ⟨n, rfl⟩ := Nat.exists_eq_add_one.mpr hdepth
      exact (heq ▸ hfields) n (Nat.le_refl _)
  cases d with
  | named name fields =>
    change segments name = [] at hpath
    rw [renderWith, if_pos hpath, hlist fields rfl]
    rfl
  | inline fields =>
    rw [renderWith, hlist fields rfl]
    rfl
  | _ => cases hcomposite

end

/-! ## Compiling is rendering -/

/-- Under the naming each key that has a name in the compiler has the same name. -/
def ExtendedBy (c : Compiler) (naming : Naming) : Prop :=
  ∀ key name, c.names.lookup key = some name → naming key = some name

/-- The naming of a compiler. -/
def naming (c : Compiler) : Naming :=
  fun key => c.names.lookup key

theorem extendedBy_naming (c : Compiler) : c.ExtendedBy c.naming :=
  fun _ _ h => h

theorem ExtendedBy.of_grows {c c' : Compiler} {naming : Naming} (h : c'.ExtendedBy naming)
    (hgrows : Grows c c') : c.ExtendedBy naming :=
  fun key name hname => h key name (hgrows.lookup_names hname)

/-- The answers are the renderings under every naming that extends the last one of the run. -/
theorem Compiles.rendered {table : SlotTable} {c c' : Compiler} {ds : List Descriptor} {ts : List TypeExpr}
    (h : Compiles table c ds ts c') {naming : Naming} (hext : c'.ExtendedBy naming) {depth : Nat}
    (hdepth : inlineLimit ≤ c.inlineDepth + depth) :
    List.Forall₂ (fun d t => renderWith naming (renderSlot table naming depth) d = some t) ds ts := by
  induction h generalizing depth with
  | nil => exact .nil
  | keyword hword _ ih => exact .cons (renderWith_keyword hword) (ih hext hdepth)
  | sequence _ ih =>
    obtain ⟨_, _⟩ | ⟨helement, hrest⟩ := ih hext hdepth
    exact .cons (by rw [renderWith, helement]; rfl) hrest
  | optional _ ih =>
    obtain ⟨_, _⟩ | ⟨hinner, hrest⟩ := ih hext hdepth
    exact .cons hinner hrest
  | wrapper _ ih =>
    obtain ⟨_, _⟩ | ⟨hinner, hrest⟩ := ih hext hdepth
    exact .cons hinner hrest
  | @inline c c₁ _ d types _ _ hcomposite hpath hlimit body rest ihbody ih =>
    have hback : c₁.inlineDepth - 1 = c.inlineDepth := by
      simp [body.grows.inlineDepth]
    refine .cons (renderWith_inline hcomposite hpath (by omega) fun depth' hd => ?_)
      (ih hext (by simpa [hback] using hdepth))
    have hinner := hext.of_grows rest.grows
    -- the slot that may be open here is the one that the composite takes from the depth
    have hopen : inlineLimit ≤ c.inlineDepth + 1 + depth' := by omega
    have hbody := ihbody hinner hopen
    rw [Descriptor.parts_eq_types hcomposite] at hbody
    exact renderMembers_of_forall₂ hbody
  | @known c c₁ _ d name _ _ hpath hassign _ rest ih =>
    have hname := hext _ _ (rest.grows.lookup_names (lookup_of_assignName hassign))
    have hback := (Grows.of_assignName hassign).inlineDepth
    refine .cons ?_ (ih hext (by rw [hback]; exact hdepth))
    rw [renderWith_path hpath, Descriptor.key, hname]
    rfl
  | @expand c c₁ c₂ _ d name types _ _ hpath hassign _ _ body rest _ ih =>
    have hgrows := body.grows.complete ⟨name, Field.members (d.fields table) types⟩
    have hname := hext _ _ ((hgrows.trans rest.grows).lookup_names (lookup_of_assignName hassign))
    have hback := ((Grows.of_assignName hassign).trans hgrows).inlineDepth
    refine .cons ?_ (ih hext (by rw [hback]; exact hdepth))
    rw [renderWith_path hpath, Descriptor.key, hname]
    rfl

/-! ## What a rendering refers to -/

/-- The names are those of composites that are reached. -/
def NamesReached (table : SlotTable) (roots : List Descriptor) (naming : Naming) (names : List String) : Prop :=
  ∀ name ∈ names, ∃ d, Descriptor.NamedFrom table roots d ∧ naming d.key = some name

section

variable {table : SlotTable} {roots : List Descriptor} {naming : Naming} {slot : String → Option (List Member)}

/-- Slots with fields that are reached are rendered with names of composites that are. -/
def SlotsReached (table : SlotTable) (roots : List Descriptor) (naming : Naming)
    (slot : String → Option (List Member)) : Prop :=
  ∀ s members, Descriptor.FieldsReachedFrom table roots (table.fields s) → slot s = some members →
    NamesReached table roots naming (Member.referencesList members)

mutual

theorem renderWith_references (hslot : SlotsReached table roots naming slot) :
    ∀ (d : Descriptor) (t : TypeExpr), Descriptor.ReachedFrom table roots d → renderWith naming slot d = some t →
      NamesReached table roots naming t.references
  | .scalar _, t, _, h | .timestamp, t, _, h | .unknown, t, _, h => by
    cases h
    exact nofun
  | .sequence element, t, hd, h => by
    rw [renderWith] at h
    obtain ⟨t, helement, rfl⟩ := Option.map_eq_some_iff.mp h
    exact renderWith_references hslot element t (hd.part element (List.mem_singleton.mpr rfl)) helement
  | .optional inner, t, hd, h => renderWith_references hslot inner t (hd.part inner (List.mem_singleton.mpr rfl)) h
  | .wrapper inner, t, hd, h => renderWith_references hslot inner t (hd.part inner (List.mem_singleton.mpr rfl)) h
  | .named name fields, t, hd, h => by
    rw [renderWith] at h
    split at h <;> rename_i hpath
    · obtain ⟨members, hfields, rfl⟩ := Option.map_eq_some_iff.mp h
      exact renderFields_references hslot fields members hd.fields hfields
    · obtain ⟨other, hname, rfl⟩ := Option.map_eq_some_iff.mp h
      intro name' hname'
      obtain rfl := List.mem_singleton.mp hname'
      exact ⟨.named name fields, ⟨hpath, hd⟩, hname⟩
  | .inline fields, t, hd, h => by
    rw [renderWith] at h
    obtain ⟨members, hfields, rfl⟩ := Option.map_eq_some_iff.mp h
    exact renderFields_references hslot fields members hd.fields hfields

theorem renderFields_references (hslot : SlotsReached table roots naming slot) :
    ∀ (fields : FieldList) (members : List Member), Descriptor.FieldsReachedFrom table roots (fields.resolve table) →
      renderFields naming slot fields = some members →
        NamesReached table roots naming (Member.referencesList members)
  | .listed fields, members, hfields, h => renderMembers_references hslot fields members hfields h
  | .deferred name, members, hfields, h => hslot name members hfields h

theorem renderMembers_references (hslot : SlotsReached table roots naming slot) :
    ∀ (fields : List Field) (members : List Member), Descriptor.FieldsReachedFrom table roots fields →
      renderMembers naming slot fields = some members →
        NamesReached table roots naming (Member.referencesList members)
  | [], members, _, h => by
    cases h
    exact nofun
  | field :: rest, members, hfields, h => by
    obtain ⟨hfield, hrest⟩ := List.forall_mem_cons.mp hfields
    rw [renderMembers] at h
    obtain ⟨member, hmember, h⟩ := Option.bind_eq_some_iff.mp h
    obtain ⟨members, hmembers, rfl⟩ := Option.map_eq_some_iff.mp h
    exact List.forall_mem_append.mpr ⟨renderField_references hslot field member hfield hmember,
      renderMembers_references hslot rest members hrest hmembers⟩

theorem renderField_references (hslot : SlotsReached table roots naming slot) :
    ∀ (field : Field) (member : Member), Descriptor.ReachedFrom table roots field.type →
      renderField naming slot field = some member → NamesReached table roots naming member.references
  | .mk wireName type required, member, hfield, h => by
    rw [renderField] at h
    obtain ⟨t, htype, rfl⟩ := Option.map_eq_some_iff.mp h
    exact renderWith_references hslot type t hfield htype

end

theorem renderSlot_references (depth : Nat) : SlotsReached table roots naming (renderSlot table naming depth) := by
  induction depth with
  | zero =>
    intro s members _ h
    cases h
  | succ depth ih => exact fun s members => renderMembers_references ih (table.fields s) members

end

end TypedRpc.Compiler
