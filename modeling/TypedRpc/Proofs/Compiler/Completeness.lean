import TypedRpc.Proofs.Compiler.CallDepth

/-!
# Derivations are runs

What is derived of a compiler, a run of it does: the same answers, the same state. The recursion allows for one other
end, that too many deferred lists would have to be open, and no compilation comes to it.
Main statement: `compile_iff`.
-/

namespace TypedRpc.Compiler

open TypedRpc.TypeScript

section

variable {table : SlotTable} {c c' : Compiler} {d : Descriptor} {ds : List Descriptor} {ts : List TypeExpr}

/-- A derivation for several descriptors begins with one for the first. -/
theorem Compiles.split (h : Compiles table c (d :: ds) ts c') :
    ∃ t us c₁, ts = t :: us ∧ Compiles table c [d] [t] c₁ ∧ Compiles table c₁ ds us c' := by
  generalize hlist : d :: ds = es at h
  induction h generalizing d ds with
  | nil => cases hlist
  | keyword hword rest _ =>
    cases hlist
    exact ⟨_, _, _, rfl, .keyword hword .nil, rest⟩
  | sequence _ ih =>
    cases hlist
    obtain ⟨_, _, c₁, heq, helement, hrest⟩ := ih rfl
    cases heq
    exact ⟨_, _, c₁, rfl, .sequence helement, hrest⟩
  | optional _ ih =>
    cases hlist
    obtain ⟨t, us, c₁, heq, hinner, hrest⟩ := ih rfl
    exact ⟨t, us, c₁, heq, .optional hinner, hrest⟩
  | wrapper _ ih =>
    cases hlist
    obtain ⟨t, us, c₁, heq, hinner, hrest⟩ := ih rfl
    exact ⟨t, us, c₁, heq, .wrapper hinner, hrest⟩
  | inline hcomposite hpath hdepth body rest _ _ =>
    cases hlist
    exact ⟨_, _, _, rfl, .inline hcomposite hpath hdepth body .nil, rest⟩
  | known hpath hassign hknown rest _ =>
    cases hlist
    exact ⟨_, _, _, rfl, .known hpath hassign hknown .nil, rest⟩
  | expand hpath hassign hkey hname body rest _ _ =>
    cases hlist
    exact ⟨_, _, _, rfl, .expand hpath hassign hkey hname body .nil, rest⟩

end

/-! ## One descriptor -/

/-- The run ends as derived, or because too many lists would have to be open. -/
def EndsAs {α : Type} (outcome : Except GenerationError α × Compiler) (a : α) (c : Compiler) : Prop :=
  outcome = (.ok a, c) ∨ outcome.1 = .error .unbounded

theorem EndsAs.map {α β : Type} {outcome : Except GenerationError α × Compiler} {a : α} {c : Compiler}
    (h : EndsAs outcome a c) (f : α → β) : EndsAs (outcome.1.map f, outcome.2) (f a) c := by
  rcases h with rfl | h
  · exact .inl rfl
  · exact .inr (by rw [h]; rfl)

/-- What is derived for the fields, the run answers. -/
def Completes (table : SlotTable) (run : Step (List Member)) (fields : List Field) : Prop :=
  ∀ c c' types, Compiles table c (fields.map Field.type) types c' →
    EndsAs (run c) (Field.members fields types) c'

section

variable {table : SlotTable} {slot : String → Step (List Member)} {c c' : Compiler} {d : Descriptor} {t : TypeExpr}
  {body : Step (List Member)}

theorem expandInline_of_compiles (hcomposite : d.isComposite = true) (hpath : d.path = [])
    (hbody : Completes table body (d.fields table)) (h : Compiles table c [d] [t] c') :
    EndsAs (expandInline body c) t c' := by
  cases h with
  | keyword hword => exact absurd hcomposite (by simp [Descriptor.isComposite_of_keyword hword])
  | sequence | optional | wrapper => cases hcomposite
  | known hne => exact absurd hpath hne
  | expand hne => exact absurd hpath hne
  | inline _ _ hdepth hfields hrest =>
    cases hrest
    rw [Descriptor.parts_eq_types hcomposite] at hfields
    have hrun := hbody _ _ _ hfields
    unfold expandInline
    rw [if_neg (Nat.not_le_of_lt hdepth)]
    rcases hrun with hrun | hrun
    · exact .inl (by rw [hrun]; rfl)
    · exact .inr (by dsimp only; rw [hrun]; rfl)

/-- The test for a composite that is under construction or defined. -/
theorem isKnown_iff {key name : String} :
    (c.processing.contains key || (c.definition? name).isSome) = true ↔
      key ∈ c.processing ∨ name ∈ c.definitions.map (·.name) := by
  rw [Bool.or_eq_true, definition?_isSome, List.contains_iff_mem]

theorem expandNamed_of_compiles (hpath : d.path ≠ []) (hbody : Completes table body (d.fields table))
    (h : Compiles table c [d] [t] c') : EndsAs (expandNamed d.path body c) t c' := by
  cases h with
  | keyword hword => exact absurd (Descriptor.path_of_keyword hword) hpath
  | sequence | optional | wrapper => exact absurd rfl hpath
  | inline _ hnil => exact absurd hnil hpath
  | known _ hassign hknown hrest =>
    cases hrest
    unfold expandNamed
    rw [hassign]
    exact .inl (if_pos (isKnown_iff.mpr hknown))
  | expand _ hassign hkey hname hfields hrest =>
    cases hrest
    rw [Descriptor.parts_eq_types (Descriptor.isComposite_of_path hpath)] at hfields
    have hrun := hbody _ _ _ hfields
    have hnew := mt isKnown_iff.mp (not_or.mpr ⟨hkey, hname⟩)
    unfold expandNamed
    rw [hassign]
    dsimp only
    rw [Descriptor.key] at hnew hrun
    rw [if_neg hnew]
    generalize body (enter _ (keyOf d.path)) = outcome at hrun
    obtain ⟨outcome, c₂⟩ := outcome
    rcases hrun with heq | rfl
    · cases heq
      exact .inl rfl
    · exact .inr rfl

mutual

theorem compileWith_of_compiles (hslot : ∀ s, Completes table (slot s) (table.fields s)) :
    ∀ (d : Descriptor) (c c' : Compiler) (t : TypeExpr), Compiles table c [d] [t] c' →
      EndsAs (compileWith slot d c) t c'
  | .scalar kind, c, c', t, h => by
    cases h with
    | keyword hword hrest =>
      cases hrest
      cases kind <;> cases hword <;> exact .inl rfl
    | inline hcomposite => cases hcomposite
    | known hne | expand hne => exact absurd rfl hne
  | .timestamp, c, c', t, h | .unknown, c, c', t, h => by
    cases h with
    | keyword hword hrest =>
      cases hrest
      cases hword
      exact .inl rfl
    | inline hcomposite => cases hcomposite
    | known hne | expand hne => exact absurd rfl hne
  | .sequence element, c, c', t, h => by
    cases h with
    | keyword hword => cases hword
    | inline hcomposite => cases hcomposite
    | known hne | expand hne => exact absurd rfl hne
    | sequence helement =>
      rw [compileWith]
      exact (compileWith_of_compiles hslot element _ _ _ helement).map TypeExpr.nullableArray
  | .optional inner, c, c', t, h => by
    cases h with
    | keyword hword => cases hword
    | inline hcomposite => cases hcomposite
    | known hne | expand hne => exact absurd rfl hne
    | optional hinner => exact compileWith_of_compiles hslot inner _ _ _ hinner
  | .wrapper inner, c, c', t, h => by
    cases h with
    | keyword hword => cases hword
    | inline hcomposite => cases hcomposite
    | known hne | expand hne => exact absurd rfl hne
    | wrapper hinner => exact compileWith_of_compiles hslot inner _ _ _ hinner
  | .named name fields, c, c', t, h => by
    have hfields := compileFields_of_compiles hslot fields
    rw [compileWith]
    split
    · rename_i hpath
      exact expandInline_of_compiles (d := .named name fields) rfl hpath hfields h
    · rename_i first rest hpath
      have hne : Descriptor.path (.named name fields) ≠ [] := by
        simp [Descriptor.path, hpath]
      have hrun := expandNamed_of_compiles (d := .named name fields) hne hfields h
      rwa [Descriptor.path, hpath] at hrun
  | .inline fields, c, c', t, h =>
    expandInline_of_compiles (d := .inline fields) rfl rfl (compileFields_of_compiles hslot fields) h

theorem compileFields_of_compiles (hslot : ∀ s, Completes table (slot s) (table.fields s)) :
    ∀ fields : FieldList, Completes table (compileFields slot fields) (fields.resolve table)
  | .listed fields => compileMembers_of_compiles hslot fields
  | .deferred name => hslot name

theorem compileMembers_of_compiles (hslot : ∀ s, Completes table (slot s) (table.fields s)) :
    ∀ fields : List Field, Completes table (compileMembers slot fields) fields
  | [], c, c', types, h => by
    cases h
    exact .inl rfl
  | field :: rest, c, c', types, h => by
    obtain ⟨t, us, c₁, rfl, hfirst, hrest⟩ := h.split
    have hfield := compileField_of_compiles hslot field _ _ _ hfirst
    have hmembers := compileMembers_of_compiles hslot rest _ _ _ hrest
    rw [compileMembers]
    generalize compileField slot field c = outcome at hfield
    obtain ⟨outcome, c₂⟩ := outcome
    rcases hfield with heq | rfl
    · cases heq
      exact hmembers.map (field.member t :: ·)
    · exact .inr rfl

theorem compileField_of_compiles (hslot : ∀ s, Completes table (slot s) (table.fields s)) :
    ∀ (field : Field) (c c' : Compiler) (t : TypeExpr), Compiles table c [field.type] [t] c' →
      EndsAs (compileField slot field c) (field.member t) c'
  | .mk wireName type required, c, c', t, h => by
    rw [compileField]
    exact (compileWith_of_compiles hslot type _ _ _ h).map (Member.mk wireName (!required || type.isOptional))

end

theorem openSlot_of_compiles (depth : Nat) (s : String) :
    Completes table (openSlot table depth s) (table.fields s) := by
  induction depth generalizing s with
  | zero => exact fun _ _ _ _ => .inr rfl
  | succ depth ih => exact compileMembers_of_compiles ih (table.fields s)

/-- A compiler answers what is derived for it, and nothing else. -/
theorem compile_iff : c.compile table d = (.ok t, c') ↔ Compiles table c [d] [t] c' := by
  refine ⟨compile_ok, fun h => ?_⟩
  rcases compileWith_of_compiles (openSlot_of_compiles (slotBound table d)) d c c' t h with hrun | hrun
  · exact hrun
  · exact absurd hrun compile_bounded

/-- What is computed of an answer shows that there is one. -/
theorem exists_compile {α : Type} {f : TypeExpr → α} {shown : α}
    (h : (c.compile table d).1.toOption.map f = some shown) :
    ∃ t, c.compile table d = (.ok t, (c.compile table d).2) ∧ f t = shown := by
  generalize c.compile table d = outcome at h
  obtain ⟨e | t, c'⟩ := outcome
  · cases h
  · exact ⟨t, rfl, Option.some.inj h⟩

end

end TypedRpc.Compiler
