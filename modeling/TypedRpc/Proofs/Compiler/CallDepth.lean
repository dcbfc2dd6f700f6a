import TypedRpc.Proofs.Compiler.Attempt
import TypedRpc.Proofs.Descriptor.Size

/-!
# The depth of the recursion

`compileWithin` compiles as `compile` does, without a bound on open slots but with one on how many calls may be
open inside each other: each function hands to the functions it calls one less than it was given. A deferred list
can lead back to itself, so no descriptor gets smaller in the calls. What gets smaller is the room: opening a
composite takes a key in sight that is not yet under construction, or one of the levels of composites that are
written out. Between two such steps the calls go down one field list.

Main statement: `compile_ends`.
-/

namespace TypedRpc

open TypedRpc.TypeScript

namespace Compiler

/-! ## The recursion with room for so many calls -/

/-- Compiles fields one after the other, given how to compile one. -/
def eachField (run : Field → Step Member) : List Field → Step (List Member)
  | [], c => (.ok [], c)
  | field :: rest, c =>
    match run field c with
    | (.error e, c) => (.error e, c)
    | (.ok member, c) =>
      let (result, c) := eachField run rest c
      (result.map (member :: ·), c)

mutual

/-- Compiles a descriptor in at most so many calls inside each other. -/
def compileWithin (table : SlotTable) : Nat → Descriptor → Step TypeExpr
  | 0, _, c => (.error .unbounded, c)
  | _ + 1, .scalar kind, c => (.ok (.keyword (scalarKeyword kind)), c)
  | _ + 1, .timestamp, c => (.ok (.keyword .string), c)
  | _ + 1, .unknown, c => (.ok (.keyword .any), c)
  | depth + 1, .sequence element, c =>
    let (result, c) := compileWithin table depth element c
    (result.map .nullableArray, c)
  | depth + 1, .optional inner, c => compileWithin table depth inner c
  | depth + 1, .wrapper inner, c => compileWithin table depth inner c
  | depth + 1, .named name fields, c => namedWithin table depth name fields c
  | depth + 1, .inline fields, c => inlineWithin table depth fields c

/-- A composite with a qualified name, which may be empty. -/
def namedWithin (table : SlotTable) : Nat → String → FieldList → Step TypeExpr
  | 0, _, _, c => (.error .unbounded, c)
  | depth + 1, name, fields, c =>
    match segments name with
    | [] => inlineWithin table depth fields c
    | first :: rest => expandNamed (first :: rest) (fieldsWithin table depth (fields.resolve table)) c

/-- A composite that is written out. -/
def inlineWithin (table : SlotTable) : Nat → FieldList → Step TypeExpr
  | 0, _, c => (.error .unbounded, c)
  | depth + 1, fields, c => expandInline (fieldsWithin table depth (fields.resolve table)) c

def fieldsWithin (table : SlotTable) : Nat → List Field → Step (List Member)
  | 0, _, c => (.error .unbounded, c)
  | depth + 1, fields, c => eachField (fieldWithin table depth) fields c

def fieldWithin (table : SlotTable) : Nat → Field → Step Member
  | 0, _, c => (.error .unbounded, c)
  | depth + 1, .mk wireName type required, c =>
    let (result, c) := compileWithin table depth type c
    (result.map (.mk wireName (!required || type.isOptional)), c)

end

/-! ## Room -/

/-- How many more composites can be opened inside each other: one for each key in sight that is not under
construction, and one for each level of composites that are written out. -/
def room (sight : Finset String) (c : Compiler) : Nat :=
  (sight \ c.processing.toFinset).card + (inlineLimit - c.inlineDepth)

section

variable {sight : Finset String} {c c' : Compiler}

theorem room_of_grows (hgrows : Grows c c') : room sight c' = room sight c := by
  simp only [room, hgrows.processing, hgrows.inlineDepth]

theorem room_enter {key : String} (hsight : key ∈ sight) (hkey : key ∉ c.processing) :
    room sight (c.enter key) + 1 = room sight c := by
  have hmem : key ∈ sight \ c.processing.toFinset := by
    simp [hsight, hkey]
  have hcard : (sight \ (c.enter key).processing.toFinset).card + 1 = (sight \ c.processing.toFinset).card := by
    show (sight \ (key :: c.processing).toFinset).card + 1 = _
    rw [List.toFinset_cons, Finset.sdiff_insert]
    exact Finset.card_erase_add_one hmem
  show _ + (inlineLimit - c.inlineDepth) + 1 = _ + (inlineLimit - c.inlineDepth)
  omega

theorem room_inline (hdepth : c.inlineDepth < inlineLimit) :
    room sight { c with inlineDepth := c.inlineDepth + 1 } + 1 = room sight c := by
  simp only [room]
  omega

theorem room_le (sight : Finset String) (c : Compiler) : room sight c ≤ sight.card + inlineLimit :=
  Nat.add_le_add (Finset.card_le_card Finset.sdiff_subset) (Nat.sub_le ..)

end

/-! ## Enough room -/

/-- The run ends as the other one, and not for want of room. -/
def Settles {α : Type} (run full : Except GenerationError α × Compiler) : Prop :=
  run = full ∧ full.1 ≠ .error .unbounded

namespace Settles

variable {α β : Type} {run full : Except GenerationError α × Compiler}

theorem refl (h : full.1 ≠ .error .unbounded) : Settles full full :=
  ⟨rfl, h⟩

theorem map (h : Settles run full) (f : α → β) : Settles (run.1.map f, run.2) (full.1.map f, full.2) := by
  obtain ⟨rfl, hbounded⟩ := h
  refine ⟨rfl, ?_⟩
  cases hrun : run.1 with
  | error e => simpa [hrun, Except.map] using hbounded
  | ok a => simp [Except.map]

end Settles

section

variable {c : Compiler} {body body' : Step (List Member)}

/-- The fields are compiled only where the composite is opened. -/
theorem expandInline_settles
    (hbody : c.inlineDepth < inlineLimit →
      Settles (body { c with inlineDepth := c.inlineDepth + 1 }) (body' { c with inlineDepth := c.inlineDepth + 1 })) :
    Settles (expandInline body c) (expandInline body' c) := by
  unfold expandInline
  split
  · exact .refl (by simp)
  · rename_i hlimit
    obtain ⟨heq, hbounded⟩ := (hbody (Nat.lt_of_not_le hlimit)).map TypeExpr.object
    dsimp only
    obtain ⟨hresult, hstate⟩ := Prod.mk.inj heq
    rw [hresult, hstate]
    exact .refl hbounded

theorem expandNamed_settles {segments : List String}
    (hbody : ∀ name c₁, c.assignName segments = (name, c₁) → keyOf segments ∉ c₁.processing →
      Settles (body (c₁.enter (keyOf segments))) (body' (c₁.enter (keyOf segments)))) :
    Settles (expandNamed segments body c) (expandNamed segments body' c) := by
  unfold expandNamed
  generalize hassign : c.assignName segments = assigned
  obtain ⟨name, c₁⟩ := assigned
  dsimp only
  split
  · exact .refl (by simp)
  · rename_i hnew
    have hkey : keyOf segments ∉ c₁.processing := fun hmem => hnew (by simp [hmem])
    obtain ⟨heq, hbounded⟩ := hbody name c₁ hassign hkey
    rw [heq]
    refine .refl ?_
    split <;> rename_i hrun <;> rw [hrun] at hbounded
    · simpa using hbounded
    · simp

end

/-- A field leaves the marks as they were. -/
theorem compileField_grows (table : SlotTable) (slots : Nat) (field : Field) (c : Compiler) :
    Grows c (compileField (openSlot table slots) field c).2 := by
  have law := Grows.law.runLaw table [field.type]
  exact law.compileField (law.openSlot slots) field (Descriptor.reachedFrom_self _ List.mem_cons_self) c

/-- A deferred list takes one of the slots that may be open. -/
theorem exists_compileFields_eq (table : SlotTable) (slots : Nat) (fields : FieldList) :
    ∃ slots', slots ≤ slots' ∧
      compileFields (openSlot table (slots + 1)) fields = compileMembers (openSlot table slots') (fields.resolve table) := by
  cases fields with
  | listed fields => exact ⟨slots + 1, Nat.le_succ slots, funext fun _ => rfl⟩
  | deferred name => exact ⟨slots, Nat.le_refl slots, funext fun _ => rfl⟩

section

variable {table : SlotTable} {sight : Finset String}

/-- How many calls it takes to go down a list that is as large as that of any slot. -/
def callsPerList (table : SlotTable) : Nat :=
  5 * table.size + 5

/-- How many calls the composites can take that may still be opened. -/
def reserve (table : SlotTable) (sight : Finset String) (c : Compiler) : Nat :=
  room sight c * callsPerList table

theorem reserve_of_room {c c' : Compiler} (h : room sight c' + 1 = room sight c) :
    reserve table sight c' + callsPerList table = reserve table sight c := by
  rw [reserve, reserve, ← h, Nat.succ_mul]

/-- A field list is in sight, and the calls suffice for it in each state with this much room. -/
theorem fields_fit {fields : FieldList} {c c' : Compiler} {depth : Nat} (hsight : ∀ key ∈ fields.keys, key ∈ sight)
    (htable : ∀ key ∈ table.keys, key ∈ sight) (hroom : room sight c' + 1 = room sight c)
    (hdepth : 5 * fields.size + 2 + reserve table sight c ≤ depth) :
    (∀ key ∈ Field.keysList (fields.resolve table), key ∈ sight) ∧
      5 * Field.sizeList (fields.resolve table) + 2 + reserve table sight c' ≤ depth := by
  refine ⟨?_, ?_⟩
  · intro key hkey
    rcases List.mem_append.mp (fields.keys_subset table hkey) with hkey | hkey
    · exact hsight key hkey
    · exact htable key hkey
  · have hreserve : reserve table sight c' + callsPerList table = reserve table sight c := reserve_of_room hroom
    cases fields with
    | listed fields =>
      simp only [FieldList.size, FieldList.resolve] at hdepth ⊢
      omega
    | deferred slot =>
      have hlist := table.sizeList_fields_le slot
      simp only [FieldList.size, FieldList.resolve, callsPerList] at hdepth hreserve ⊢
      omega

mutual

theorem compileWithin_settles (htable : ∀ key ∈ table.keys, key ∈ sight) :
    ∀ (depth slots : Nat) (d : Descriptor) (c : Compiler), (∀ key ∈ d.keys, key ∈ sight) → room sight c ≤ slots →
      5 * d.size + reserve table sight c ≤ depth →
        Settles (compileWithin table depth d c) (compileWith (openSlot table slots) d c)
  | 0, _, d, _, _, _, hdepth => by
    have := d.size_pos
    omega
  | _ + 1, _, .scalar _, _, _, _, _ | _ + 1, _, .timestamp, _, _, _, _ | _ + 1, _, .unknown, _, _, _, _ =>
    ⟨rfl, by simp [compileWith]⟩
  | depth + 1, slots, .sequence element, c, hsight, hslots, hdepth => by
    simp only [Descriptor.size] at hdepth
    have helement := compileWithin_settles htable depth slots element c hsight hslots (by omega)
    exact helement.map TypeExpr.nullableArray
  | depth + 1, slots, .optional inner, c, hsight, hslots, hdepth => by
    simp only [Descriptor.size] at hdepth
    exact compileWithin_settles htable depth slots inner c hsight hslots (by omega)
  | depth + 1, slots, .wrapper inner, c, hsight, hslots, hdepth => by
    simp only [Descriptor.size] at hdepth
    exact compileWithin_settles htable depth slots inner c hsight hslots (by omega)
  | depth + 1, slots, .named name fields, c, hsight, hslots, hdepth => by
    simp only [Descriptor.size] at hdepth
    exact namedWithin_settles htable depth slots name fields c hsight hslots (by omega)
  | depth + 1, slots, .inline fields, c, hsight, hslots, hdepth => by
    simp only [Descriptor.size] at hdepth
    exact inlineWithin_settles htable depth slots fields c hsight hslots (by omega)

theorem namedWithin_settles (htable : ∀ key ∈ table.keys, key ∈ sight) :
    ∀ (depth slots : Nat) (name : String) (fields : FieldList) (c : Compiler),
      (∀ key ∈ (Descriptor.named name fields).keys, key ∈ sight) → room sight c ≤ slots →
      5 * fields.size + 4 + reserve table sight c ≤ depth →
        Settles (namedWithin table depth name fields c) (compileWith (openSlot table slots) (.named name fields) c)
  | 0, _, _, _, _, _, _, hdepth => by omega
  | depth + 1, slots, name, fields, c, hsight, hslots, hdepth => by
    obtain ⟨hkey, hfields⟩ := List.forall_mem_cons.mp hsight
    rw [namedWithin, compileWith]
    cases hpath : segments name with
    | nil => exact inlineWithin_settles htable depth slots fields c hfields hslots (by omega)
    | cons first rest =>
      rw [hpath] at hkey
      refine expandNamed_settles ?_
      intro _ c₁ hassign hnew
      have hassigned : room sight c₁ = room sight c := room_of_grows (Grows.of_assignName hassign)
      have hentered := hassigned ▸ room_enter hkey hnew
      have hfits : 5 * fields.size + 2 + reserve table sight c ≤ depth := by omega
      obtain ⟨hlist, hcalls⟩ := fields_fit hfields htable hentered hfits
      obtain ⟨slots, rfl⟩ : ∃ less, slots = less + 1 := Nat.exists_eq_add_one.mpr (by omega)
      obtain ⟨slots', hmore, heq⟩ := exists_compileFields_eq table slots fields
      rw [heq]
      exact fieldsWithin_settles htable depth slots' _ _ hlist (by omega) hcalls

theorem inlineWithin_settles (htable : ∀ key ∈ table.keys, key ∈ sight) :
    ∀ (depth slots : Nat) (fields : FieldList) (c : Compiler), (∀ key ∈ fields.keys, key ∈ sight) →
      room sight c ≤ slots → 5 * fields.size + 3 + reserve table sight c ≤ depth →
        Settles (inlineWithin table depth fields c) (expandInline (compileFields (openSlot table slots) fields) c)
  | 0, _, _, _, _, _, hdepth => by omega
  | depth + 1, slots, fields, c, hsight, hslots, hdepth => by
    rw [inlineWithin]
    refine expandInline_settles ?_
    intro hlimit
    have hdeeper : room sight { c with inlineDepth := c.inlineDepth + 1 } + 1 = room sight c := room_inline hlimit
    have hfits : 5 * fields.size + 2 + reserve table sight c ≤ depth := by omega
    obtain ⟨hlist, hcalls⟩ := fields_fit hsight htable hdeeper hfits
    obtain ⟨slots, rfl⟩ : ∃ less, slots = less + 1 := Nat.exists_eq_add_one.mpr (by omega)
    obtain ⟨slots', hmore, heq⟩ := exists_compileFields_eq table slots fields
    rw [heq]
    exact fieldsWithin_settles htable depth slots' _ _ hlist (by omega) hcalls

theorem fieldsWithin_settles (htable : ∀ key ∈ table.keys, key ∈ sight) :
    ∀ (depth slots : Nat) (fields : List Field) (c : Compiler), (∀ key ∈ Field.keysList fields, key ∈ sight) →
      room sight c ≤ slots → 5 * Field.sizeList fields + 2 + reserve table sight c ≤ depth →
        Settles (fieldsWithin table depth fields c) (compileMembers (openSlot table slots) fields c)
  | 0, _, _, _, _, _, hdepth => by omega
  | depth + 1, slots, fields, c, hsight, hslots, hdepth => by
    rw [fieldsWithin]
    induction fields generalizing c with
    | nil => exact ⟨rfl, by simp [compileMembers]⟩
    | cons field rest ih =>
      obtain ⟨hfirst, hrest⟩ := List.forall_mem_append.mp hsight
      simp only [Field.sizeList] at hdepth
      obtain ⟨heq, hbounded⟩ := fieldWithin_settles htable depth slots field c hfirst hslots (by omega)
      rw [eachField, compileMembers, heq]
      -- the field leaves the room as it was, whatever else it did
      have hgrows := compileField_grows table slots field c
      generalize compileField (openSlot table slots) field c = outcome at hbounded hgrows
      obtain ⟨_ | member, c₁⟩ := outcome
      · exact ⟨rfl, by simpa using hbounded⟩
      · have hroom : room sight c₁ = room sight c := room_of_grows hgrows
        have hreserve : reserve table sight c₁ = reserve table sight c := by
          rw [reserve, reserve, hroom]
        exact (ih c₁ hrest (hroom ▸ hslots) (by omega)).map (member :: ·)

theorem fieldWithin_settles (htable : ∀ key ∈ table.keys, key ∈ sight) :
    ∀ (depth slots : Nat) (field : Field) (c : Compiler), (∀ key ∈ field.keys, key ∈ sight) →
      room sight c ≤ slots → 5 * field.size + 1 + reserve table sight c ≤ depth →
        Settles (fieldWithin table depth field c) (compileField (openSlot table slots) field c)
  | 0, _, _, _, _, _, hdepth => by omega
  | depth + 1, slots, .mk wireName type required, c, hsight, hslots, hdepth => by
    simp only [Field.size] at hdepth
    have htype := compileWithin_settles htable depth slots type c hsight hslots (by omega)
    exact htype.map (Member.mk wireName (!required || type.isOptional))

end

end

/-! ## Compilations end -/

section

variable {table : SlotTable} {d : Descriptor} {c : Compiler}

/-- With enough calls, a compilation ends as the recursion without a bound on open slots does. -/
theorem compile_settles {depth : Nat}
    (hdepth : 5 * d.size + reserve table (d.keysInSight table) c ≤ depth) :
    Settles (compileWithin table depth d c) (c.compile table d) := by
  have htable : ∀ key ∈ table.keys, key ∈ d.keysInSight table := by
    intro key hkey
    simp [Descriptor.keysInSight, hkey]
  refine compileWithin_settles htable depth (slotBound table d) d c ?_ ?_ hdepth
  · intro key hkey
    simp [Descriptor.keysInSight, hkey]
  · have hkeys := d.card_keysInSight_le table
    have hroom := room_le (d.keysInSight table) c
    rw [slotBound]
    omega

/-- No compilation fails because too many slots would have to be open. -/
theorem compile_bounded : (c.compile table d).1 ≠ .error .unbounded :=
  (compile_settles (Nat.le_refl _)).2

end

/-- How many calls can be open inside each other, for so many different keys and for a descriptor and lists in the
slots of at most this size. -/
def callBound (keys size : Nat) : Nat :=
  (keys + inlineLimit + 1) * (5 * size + 5)

/-- **Every compilation ends.** Whatever the slots hold and whatever state the compiler is in, the recursion
without a bound on open slots needs no more calls inside each other than the bound says, which is made of the number
of different keys, the limit for composites that are written out, and the sizes of the descriptor and the lists in
the slots. It answers what `compile` answers, and neither of them fails for want of room. -/
theorem compile_ends {table : SlotTable} {d : Descriptor} {depth : Nat}
    (hdepth : callBound (d.keysInSight table).card (max d.size table.size) ≤ depth) (c : Compiler) :
    compileWithin table depth d c = c.compile table d ∧ (c.compile table d).1 ≠ .error .unbounded := by
  refine ⟨(compile_settles (Nat.le_trans ?_ hdepth)).1, compile_bounded⟩
  have hsize := Nat.le_max_left d.size table.size
  have hlist : callsPerList table ≤ 5 * max d.size table.size + 5 := by
    have := Nat.le_max_right d.size table.size
    rw [callsPerList]
    omega
  have hreserve : reserve table (d.keysInSight table) c ≤
      ((d.keysInSight table).card + inlineLimit) * (5 * max d.size table.size + 5) :=
    Nat.mul_le_mul (room_le _ c) hlist
  calc 5 * d.size + reserve table (d.keysInSight table) c
    _ ≤ ((d.keysInSight table).card + inlineLimit) * (5 * max d.size table.size + 5)
          + (5 * max d.size table.size + 5) := by omega
    _ = callBound (d.keysInSight table).card (max d.size table.size) := (Nat.succ_mul ..).symm

/-- Two types that contain each other, one of which has a field that is written out inside itself without end, met
by a compiler in the middle of another type. -/
theorem compile_ends_looping :
    let table : SlotTable :=
      [("left", [.plain "right" (.named "x::Right" (.deferred "right"))]),
       ("right", [.plain "left" (.named "x::Left" (.deferred "left")), .plain "chain" (.inline (.deferred "chain"))]),
       ("chain", [.leaveable "next" (.inline (.deferred "chain"))])]
    let left : Descriptor := .named "x::Left" (.deferred "left")
    let c : Compiler := { Compiler.empty with processing := ["x::Other"], inlineDepth := 3 }
    callBound (left.keysInSight table).card (max left.size table.size) ≤ 525 ∧
    compileWithin table 525 left c = c.compile table left ∧ (c.compile table left).1 ≠ .error .unbounded ∧
      (c.compile table left).1.toOption.map TypeExpr.print = none := by
  intro table left c
  have hbound : callBound (left.keysInSight table).card (max left.size table.size) ≤ 525 := by
    decide +kernel
  have hfailed : (c.compile table left).1.toOption.map TypeExpr.print = none := by
    decide +kernel
  obtain ⟨hsame, hbounded⟩ := compile_ends hbound c
  exact ⟨hbound, hsame, hbounded, hfailed⟩

end Compiler

end TypedRpc
