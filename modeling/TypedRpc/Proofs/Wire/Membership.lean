import TypedRpc.Proofs.Compiler.FirstMeeting
import TypedRpc.Proofs.TypeScript.Membership
import TypedRpc.Proofs.Wire.Inhabitants

/-!
# Responses and their types

What is written for a value of a shape, against the type that a client is told. The type of a layer that may be
missing is the type below it, and only a field says that it may be left out. Main statement: the JSON of a value is a
member of the type exactly if nothing in the value is missing that is no field and does not take null.
-/

namespace TypedRpc.Wire

open TypedRpc.TypeScript TypedRpc.Compiler

/-! ## What is written -/

theorem Value.encodeItems_eq (items : List Value) : encodeItems items = items.map encode := by
  induction items with
  | nil => rfl
  | cons item rest ih => rw [encodeItems, ih, List.map_cons]

theorem Value.encodeMembers_eq (members : List (String × Value)) :
    encodeMembers members = members.map fun (name, v) => (name, v.encode) := by
  induction members with
  | nil => rfl
  | cons member rest ih => rw [encodeMembers, ih, List.map_cons]

theorem mem_writtenMembers {fields : List (FieldDecl × Option Value)} {name : String} {v : Value} :
    (name, v) ∈ writtenMembers fields ↔ ∃ field, (field, some v) ∈ fields ∧ field.name = name := by
  simp only [writtenMembers, List.mem_filterMap, Option.map_eq_some_iff, Prod.mk.injEq, Prod.exists]
  constructor
  · rintro ⟨field, value?, hfield, v', rfl, rfl, rfl⟩
    exact ⟨field, hfield, rfl⟩
  · rintro ⟨field, hfield, rfl⟩
    exact ⟨field, _, hfield, v, rfl, rfl, rfl⟩

theorem mem_encodeMembers_written {fields : List (FieldDecl × Option Value)} {name : String} {value : Json.Value} :
    (name, value) ∈ Value.encodeMembers (writtenMembers fields) ↔
      ∃ field v, (field, some v) ∈ fields ∧ field.name = name ∧ v.encode = value := by
  simp only [Value.encodeMembers_eq, List.mem_map, Prod.exists, Prod.mk.injEq, mem_writtenMembers]
  constructor
  · rintro ⟨_, v, ⟨field, hfield, rfl⟩, rfl, rfl⟩
    exact ⟨field, v, hfield, rfl, rfl⟩
  · rintro ⟨field, v, hfield, rfl, rfl⟩
    exact ⟨field.name, v, ⟨field, hfield, rfl⟩, rfl, rfl⟩

/-! ## The types of records -/

/-- Each record whose name was given out has a definition with the members for its fields. -/
def Defined (declared : Declarations) (naming : Naming) (definitions : List Definition) : Prop :=
  ∀ name decl n, declared.lookup name = some decl → segments name ≠ [] → naming (keyOf (segments name)) = some n →
    ∃ definition ∈ definitions, definition.name = n ∧
      renderMembers naming (renderSlot declared.slots naming inlineLimit) (decl.fields.map (·.describe declared)) =
        some definition.members

section

variable {declared : Declarations} {naming : Naming} {slot : String → Option (List Member)}
  {definitions : List Definition} {name : String} {decl : RecordDecl} {t : TypeExpr}

/-- A record is written out, or goes by its name. -/
theorem render_record (hdecl : declared.lookup name = some decl)
    (ht : renderWith naming slot ((Shape.record name).describe declared) = some t) :
    (∃ members, slot name = some members ∧ t = .object members) ∨
    (segments name ≠ [] ∧ ∃ n, naming (keyOf (segments name)) = some n ∧ t = .reference n) := by
  simp only [Shape.describe, hdecl] at ht
  split at ht
  · obtain ⟨members, hmembers, rfl⟩ := Option.map_eq_some_iff.mp ht
    exact .inl ⟨members, hmembers, rfl⟩
  · rw [renderWith] at ht
    split at ht <;> rename_i hpath
    · obtain ⟨members, hmembers, rfl⟩ := Option.map_eq_some_iff.mp ht
      exact .inl ⟨members, hmembers, rfl⟩
    · obtain ⟨n, hn, rfl⟩ := Option.map_eq_some_iff.mp ht
      exact .inr ⟨hpath, n, hn, rfl⟩

/-- Null is a member of the types that take null. -/
theorem admits_null_iff {shape : Shape} (ht : renderWith naming slot (shape.describe declared) = some t) :
    Admits definitions t .null ↔ shape.takesNull declared = true := by
  induction shape with
  | json | unit | table =>
    cases ht
    exact ⟨fun _ => rfl, fun _ => .any⟩
  | text | character | boolean | natural | integer | float | timestamp | empty =>
    cases ht
    constructor <;> intro h <;> cases h
  | option _ ih | choice _ ih => exact ih ht
  | list element =>
    obtain ⟨_, -, rfl⟩ := Option.map_eq_some_iff.mp ht
    exact ⟨fun _ => rfl, fun _ => .null⟩
  | record name =>
    cases hdecl : declared.lookup name with
    | none =>
      simp only [Shape.describe, hdecl] at ht
      cases ht
      exact ⟨fun _ => by rw [Shape.takesNull, hdecl]; rfl, fun _ => .any⟩
    | some decl =>
      rw [Shape.takesNull, hdecl]
      constructor <;> intro h
      · obtain ⟨members, -, rfl⟩ | ⟨-, n, -, rfl⟩ := render_record hdecl ht
        · cases h
        · cases h with
          | reference _ hvalue => cases hvalue
      · cases h

variable {fields : List (FieldDecl × Option Value)} {members : List Member}

theorem mem_fields_of_mem (hfields : fields.map (·.1) = decl.fields) {field : FieldDecl} {value? : Option Value}
    (h : (field, value?) ∈ fields) : field ∈ decl.fields := by
  rw [← hfields]
  exact List.mem_map_of_mem h

theorem eq_of_name_eq (hnames : (decl.fields.map (·.name)).Nodup) (hfields : fields.map (·.1) = decl.fields)
    {field other : FieldDecl} {v : Value} (hfield : field ∈ decl.fields) (hother : (other, some v) ∈ fields)
    (hname : other.name = field.name) : other = field :=
  List.inj_on_of_nodup_map hnames (mem_fields_of_mem hfields hother) hfield hname

/-- Something is astray in a record if it is astray in a field that is there. -/
theorem stray_record_iff (hdecl : declared.lookup name = some decl) (hnames : (decl.fields.map (·.name)).Nodup)
    (hfields : fields.map (·.1) = decl.fields) :
    Stray declared (.record name) (.record (writtenMembers fields)) ↔
      ∃ field v, (field, some v) ∈ fields ∧ v.isMissing = false ∧ Stray declared field.shape v := by
  constructor
  · intro hstray
    cases hstray with
    | field hdecl' hfield hwritten hthere hstray =>
      obtain rfl := Option.some.inj (hdecl.symm.trans hdecl')
      obtain ⟨other, hother, hname⟩ := mem_writtenMembers.mp hwritten
      obtain rfl := eq_of_name_eq hnames hfields hfield hother hname
      exact ⟨_, _, hother, hthere, hstray⟩
  · rintro ⟨field, v, hfield, hthere, hstray⟩
    exact .field hdecl (mem_fields_of_mem hfields hfield) (mem_writtenMembers.mpr ⟨field, hfield, rfl⟩) hthere hstray

/-- What is written for the fields of a record, against the members that stand for them. -/
theorem admits_object_iff (hnames : (decl.fields.map (·.name)).Nodup) (hfields : fields.map (·.1) = decl.fields)
    (homitted : ∀ field, (field, none) ∈ fields → field.omitsAbsent = true)
    (hvalues : ∀ field v, (field, some v) ∈ fields → Inhabits declared field.shape v)
    (hmembers : renderMembers naming slot (decl.fields.map (·.describe declared)) = some members)
    (hadmits : ∀ field v, (field, some v) ∈ fields → ∀ t,
      renderWith naming slot (field.shape.describe declared) = some t →
        (Admits definitions t v.encode ↔ ¬ Stray declared field.shape v)) :
    Admits definitions (.object members) (Value.record (writtenMembers fields)).encode ↔
      ∀ field v, (field, some v) ∈ fields → v.isMissing = false → ¬ Stray declared field.shape v := by
  obtain ⟨hrendered, hmade⟩ := mem_of_renderMembers hmembers
  rw [Value.encode, Admits.object_iff]
  constructor
  · rintro ⟨-, hadmitted⟩ field v hfield hthere hstray
    obtain ⟨t, ht, hmember⟩ := hrendered _ (List.mem_map_of_mem (mem_fields_of_mem hfields hfield))
    rw [describe_type] at ht
    rw [Field.member, describe_wireName] at hmember
    have hentry := mem_encodeMembers_written.mpr ⟨field, v, hfield, rfl, rfl⟩
    -- null is written for what is missing only, or else nothing would be astray in it
    have hnull : v.encode ≠ .null := fun hnull =>
      ((hvalues _ _ hfield).encode_null hnull).elim (by simp [hthere]) (absurd hstray)
    exact (hadmits _ _ hfield t ht).mp (hadmitted _ _ t _ hmember hentry fun h => hnull h.2) hstray
  · intro hstray
    refine ⟨fun n t hmember => ?_, fun n optional t value hmember hentry hnull => ?_⟩
    · obtain ⟨described, hdescribed, t', -, heq⟩ := hmade _ hmember
      obtain ⟨field, hfield, rfl⟩ := List.mem_map.mp hdescribed
      obtain ⟨rfl, hoptional, rfl⟩ := Member.mk.inj heq
      obtain ⟨⟨_, value?⟩, hpair, rfl⟩ := List.mem_map.mp (hfields ▸ hfield)
      cases value? with
      | none => simp [describe_isOptional, homitted _ hpair] at hoptional
      | some v =>
        rw [describe_wireName]
        exact List.mem_map_of_mem (mem_encodeMembers_written.mpr ⟨_, v, hpair, rfl, rfl⟩)
    · obtain ⟨described, hdescribed, t', ht, heq⟩ := hmade _ hmember
      obtain ⟨field, hfield, rfl⟩ := List.mem_map.mp hdescribed
      obtain ⟨rfl, rfl, rfl⟩ := Member.mk.inj heq
      rw [describe_type] at ht
      rw [describe_wireName] at hentry
      obtain ⟨other, v, hother, hname, rfl⟩ := mem_encodeMembers_written.mp hentry
      obtain rfl := eq_of_name_eq hnames hfields hfield hother hname
      -- a field whose value is missing is told to be optional
      have hthere : v.isMissing = false := by
        by_contra hmissing
        rw [Bool.not_eq_false] at hmissing
        refine hnull ⟨?_, Value.encode_of_isMissing hmissing⟩
        rw [describe_isOptional, (hvalues _ _ hother).isOptional hmissing, Bool.or_true]
      exact (hadmits _ _ hother _ ht).mpr (hstray _ _ hother hthere)

end

/-! ## Values and their types -/

section

variable {declared : Declarations} {naming : Naming} {definitions : List Definition}

/-- The JSON of a value is a member of the type, unless something is missing in the value that is no field and does not
take null. -/
theorem admits_iff (hdeclared : declared.WellFormed) (hunique : (definitions.map (·.name)).Nodup)
    (hdefined : Defined declared naming definitions) {shape : Shape} {v : Value} (hv : Inhabits declared shape v)
    {depth : Nat} {t : TypeExpr}
    (ht : renderWith naming (renderSlot declared.slots naming depth) (shape.describe declared) = some t) :
    Admits definitions t v.encode ↔ ¬ Stray declared shape v := by
  induction hv generalizing depth t with
  | json | unit | table =>
    cases ht
    exact ⟨fun _ => nofun, fun _ => .any⟩
  | text | character | timestamp =>
    cases ht
    exact ⟨fun _ => nofun, fun _ => .string⟩
  | boolean =>
    cases ht
    exact ⟨fun _ => nofun, fun _ => .boolean⟩
  | natural | integer =>
    cases ht
    exact ⟨fun _ => nofun, fun _ => .integer⟩
  | float =>
    cases ht
    exact ⟨fun _ => nofun, fun _ => .float⟩
  | empty =>
    cases ht
    exact ⟨fun _ => nofun, fun _ => .object nofun nofun⟩
  | none =>
    rw [Stray.none_iff, not_not]
    exact admits_null_iff ht
  | notChosen =>
    rw [Stray.notChosen_iff, not_not]
    exact admits_null_iff ht
  | some _ ih => exact (ih ht).trans (not_congr Stray.some_iff.symm)
  | chosen _ ih => exact (ih ht).trans (not_congr Stray.chosen_iff.symm)
  | @list element items _ ih =>
    obtain ⟨u, helement, rfl⟩ := Option.map_eq_some_iff.mp ht
    rw [Value.encode, Admits.array_iff, Value.encodeItems_eq, List.forall_mem_map, Stray.list_iff]
    simp only [not_exists, not_and]
    exact forall₂_congr fun item hitem => ih item hitem helement
  | @record name decl fields hdecl hfields homitted hvalues ih =>
    have hnames := hdeclared.fields name decl (mem_of_lookup hdecl)
    rw [stray_record_iff hdecl hnames hfields]
    simp only [not_exists, not_and]
    obtain ⟨members, hmembers, rfl⟩ | ⟨hpath, n, hn, rfl⟩ := render_record hdecl ht
    · cases depth with
      | zero => cases hmembers
      | succ depth =>
        rw [renderSlot, slots_fields hdecl] at hmembers
        exact admits_object_iff hnames hfields homitted hvalues hmembers fun field v hv t => ih field v hv
    · obtain ⟨definition, hdefinition, rfl, hmembers⟩ := hdefined name decl n hdecl hpath hn
      rw [Admits.reference_iff hunique hdefinition]
      exact admits_object_iff hnames hfields homitted hvalues hmembers fun field v hv t => ih field v hv

end

/-! ## What a compiler answers -/

section

variable {declared : Declarations} {shapes : List Shape} {ts : List TypeExpr} {c : Compiler}

/-- A compiler that met a record has defined it by its own fields. -/
theorem defined_of_compiles (hdeclared : declared.WellFormed)
    (h : Compiles declared.slots .empty (shapes.map (Shape.describe declared)) ts c) :
    Defined declared c.naming c.definitions := by
  intro name decl n hdecl hpath hname
  obtain ⟨met, htracks, hwalk⟩ := h.exists_walk
  have hkey : keyOf (segments name) ∈ met.map (·.1) := by
    rw [← htracks.keys]
    exact List.mem_map_of_mem (mem_of_lookup hname)
  obtain ⟨⟨key, fields⟩, hentry, hsame⟩ := List.mem_map.mp hkey
  have hdone : key ∉ c.processing := by
    rw [h.grows.processing]
    exact List.not_mem_nil
  obtain ⟨definition, hdefinition, hnamed, hrendered⟩ := htracks.settled hentry hdone
  obtain ⟨d, hd, heq⟩ := hwalk.met_from _ hentry
  obtain ⟨rfl, rfl⟩ := Prod.mk.inj heq
  -- a record is known by its name, so it is this record that the key was met with
  obtain ⟨other, decl', hdecl', rfl⟩ := record_of_namedFrom hd
  have hother := hdeclared.qualified other decl' (mem_of_lookup hdecl')
  have hthis := hdeclared.qualified name decl (mem_of_lookup hdecl)
  obtain rfl : other = name := hother.symm.trans (hsame.trans hthis)
  obtain ⟨members, hmembers, hmade⟩ := Option.map_eq_some_iff.mp (hrendered c.naming (extendedBy_naming c))
  refine ⟨definition, hdefinition, ?_, ?_⟩
  · exact Option.some.inj (hnamed.symm.trans hname)
  · rw [← slots_fields hdecl, ← hmade]
    exact hmembers

/-- **Responses inhabit their types.** When all calls of a session are successful, the JSON of a value of a shape is a
member of the type that was answered for the shape exactly if nothing is missing in the value that is no field and does
not take null. -/
theorem session_admits_iff (hdeclared : declared.WellFormed)
    (h : session declared.slots ((shapes.map (Shape.describe declared)).map .compile) .empty = (ts.map .token, c)) :
    ∀ shape t, (shape, t) ∈ shapes.zip ts → ∀ v, Inhabits declared shape v →
      (Admits c.definitions t v.encode ↔ ¬ Stray declared shape v) := by
  intro shape t hanswer v hv
  have hrun := session_ok h
  have hcoherent : c.Coherent := hrun.coherent .empty
  have hrendered := List.forall₂_map_left_iff.mp (hrun.rendered (extendedBy_naming c) (Nat.le_add_left _ _))
  have ht := List.forall₂_zip hrendered hanswer
  exact admits_iff hdeclared hcoherent.unique (defined_of_compiles hdeclared hrun) hv ht

end

/-- A chain of nodes: at its end a field is missing, which is told, but the item of a list is not told to be missing. -/
theorem session_admits_iff_node :
    let next : FieldDecl := .plain "next" (.option (.record "chain::Node"))
    let sizes : FieldDecl := .plain "sizes" (.list (.option (.natural 8)))
    let declared := declarations [⟨"chain::Node", "Node", [next, sizes], false, false⟩]
    let shape := Shape.record "chain::Node"
    let node (later : Value) (items : List Value) : Value := .record [("next", later), ("sizes", .list items)]
    let sized := node (.present (node .absent [.present (.integer 1)])) []
    let unsized := node .absent [.absent]
    declared.WellFormed ∧ Inhabits declared shape sized ∧ Inhabits declared shape unsized ∧
    ∃ t c, session declared.slots [.compile (shape.describe declared)] .empty = ([.token t], c) ∧
      Admits c.definitions t sized.encode ∧ ¬ Admits c.definitions t unsized.encode := by
  intro next sizes declared shape node sized unsized
  have hdeclared : declared.WellFormed := by
    constructor <;> intro name record hrecord <;> obtain ⟨rfl, rfl⟩ := Prod.mk.inj (List.mem_singleton.mp hrecord)
    · decide
    · decide
  have hinhabits : ∀ later items, Inhabits declared next.shape later → Inhabits declared sizes.shape (.list items) →
      Inhabits declared shape (node later items) := by
    intro later items hlater hitems
    refine @Inhabits.record declared _ _ [(next, some later), (sizes, some (.list items))] rfl rfl (by simp) ?_
    intro field v hfield
    simp only [List.mem_cons, Prod.mk.injEq, Option.some.injEq, List.not_mem_nil, or_false] at hfield
    obtain ⟨rfl, rfl⟩ | ⟨rfl, rfl⟩ := hfield
    · exact hlater
    · exact hitems
  have hstray : ∀ later items, Stray declared shape (node later items) ↔
      (later.isMissing = false ∧ Stray declared next.shape later) ∨ Stray declared sizes.shape (.list items) := by
    intro later items
    refine (@stray_record_iff declared _ _ [(next, some later), (sizes, some (.list items))] rfl ?_ rfl).trans ?_
    · decide
    · simp [or_and_right, exists_or, Value.isMissing]
  have hone : Inhabits declared sizes.shape (.list [.present (.integer 1)]) := by
    refine .list fun item hitem => ?_
    obtain rfl := List.mem_singleton.mp hitem
    exact .some (.natural (n := 1) (by decide))
  have hsized : Inhabits declared shape sized := hinhabits _ _ (.some (hinhabits _ _ .none hone)) (.list nofun)
  have hunsized : Inhabits declared shape unsized := by
    refine hinhabits _ _ .none (.list fun item hitem => ?_)
    obtain rfl := List.mem_singleton.mp hitem
    exact .none
  have hcompiles : (Compiler.empty.compile declared.slots (shape.describe declared)).1.toOption.isSome = true := by
    decide +kernel
  obtain ⟨t, c, hrun⟩ : ∃ t c, session declared.slots (([shape].map (Shape.describe declared)).map .compile) .empty =
      ([t].map .token, c) := by
    generalize hcompile : Compiler.empty.compile declared.slots (shape.describe declared) = outcome at hcompiles
    obtain ⟨_ | t, c⟩ := outcome
    · cases hcompiles
    · exact ⟨t, c, by simp only [List.map_cons, List.map_nil, session, Call.run, hcompile]⟩
  have hiff := session_admits_iff hdeclared hrun shape t List.mem_cons_self
  refine ⟨hdeclared, hsized, hunsized, t, c, hrun, (hiff sized hsized).mpr ?_, fun h => (hiff unsized hunsized).mp h ?_⟩
  · have hleaf : ¬ Stray declared shape (node .absent [.present (.integer 1)]) := by
      rw [hstray]
      rintro (⟨hthere, -⟩ | h)
      · cases hthere
      · obtain ⟨item, hitem, h⟩ := Stray.list_iff.mp h
        obtain rfl := List.mem_singleton.mp hitem
        cases Stray.some_iff.mp h
    rw [hstray]
    rintro (⟨-, h⟩ | h)
    · exact hleaf (Stray.some_iff.mp h)
    · obtain ⟨item, hitem, -⟩ := Stray.list_iff.mp h
      exact absurd hitem List.not_mem_nil
  · exact (hstray _ _).mpr (.inr (.item (List.mem_singleton_self _) (.none (by decide))))

/-- Nobody is told that a value may be missing that stands alone or in a list. Two fields of one name cannot both be
members of their types, and of two records that go by one name only the first is defined. -/
theorem session_not_admits :
    (∃ c, session [] [.compile ((Shape.option (.natural 32)).describe [])] .empty = ([.token (.keyword .number)], c) ∧
      Inhabits [] (.option (.natural 32)) .absent ∧
      ¬ Admits c.definitions (.keyword .number) Value.absent.encode) ∧
    (∃ c, session [] [.compile ((Shape.list (.option (.natural 32))).describe [])] .empty =
        ([.token (.nullableArray (.keyword .number))], c) ∧
      Inhabits [] (.list (.option (.natural 32))) (.list [.absent]) ∧
      ¬ Admits c.definitions (.nullableArray (.keyword .number)) (Value.list [.absent]).encode) ∧
    (let decl : RecordDecl := ⟨"m::Twice", "Twice", [.plain "x" .text, .plain "x" .boolean], false, true⟩
      let declared := declarations [decl]
      let type := TypeExpr.object [.mk "x" false (.keyword .string), .mk "x" false (.keyword .boolean)]
      let v : Value := .record [("x", .text "a"), ("x", .bool true)]
      ∃ c, session declared.slots [.compile ((Shape.record "m::Twice").describe declared)] .empty =
          ([.token type], c) ∧
        Inhabits declared (.record "m::Twice") v ∧ ¬ Admits c.definitions type v.encode) ∧
    (let first : Descriptor := .named "m::T" (.listed [.plain "a" .number])
      let second : Descriptor := .named "m::T" (.listed [.plain "b" .string])
      ∃ c, session [] [.compile first, .compile second] .empty =
          ([.token (.reference "m_T"), .token (.reference "m_T")], c) ∧
        ¬ Admits c.definitions (.reference "m_T") (.object [("b", .string "x")])) := by
  refine ⟨⟨_, rfl, .none, nofun⟩, ⟨_, rfl, ?_, ?_⟩, ⟨_, rfl, ?_, ?_⟩, ⟨_, rfl, ?_⟩⟩
  · refine .list fun item hitem => ?_
    obtain rfl := List.mem_singleton.mp hitem
    exact .none
  · intro h
    cases Admits.array_iff.mp h .null (List.mem_singleton_self _)
  · refine @Inhabits.record _ "m::Twice" _
      [(.plain "x" .text, some (.text "a")), (.plain "x" .boolean, some (.bool true))] rfl rfl (by simp) ?_
    intro field v hfield
    simp only [List.mem_cons, Prod.mk.injEq, Option.some.injEq, List.not_mem_nil, or_false] at hfield
    obtain ⟨rfl, rfl⟩ | ⟨rfl, rfl⟩ := hfield
    · exact .text
    · exact .boolean
  · intro h
    -- the text is taken for the second member, too
    cases (Admits.object_iff.mp h).2 "x" false (.keyword .boolean) (.string "a") (.tail _ (.head _)) (.head _) nofun
  · intro h
    have hdefinition := (Admits.reference_iff (by decide) List.mem_cons_self).mp h
    exact absurd ((Admits.object_iff.mp hdefinition).1 "a" (.keyword .number) List.mem_cons_self) (by decide)

end TypedRpc.Wire
