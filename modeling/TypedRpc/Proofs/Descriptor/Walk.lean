import TypedRpc.Proofs.Descriptor.Graph

/-!
# The first meeting with a key

Going through descriptors depth-first, in the order of declaration, meets composites that are defined by name. A
composite is entered when its key is met for the first time and passed over afterwards, so that the walk ends
although the graph has cycles. The walk looks at descriptors alone; it knows of no compiler.
-/

namespace TypedRpc

/-- The keys that have been met, each with the fields of the composite with which it was met first. -/
abbrev Met := List (String × List Field)

/-- The walk through the descriptors meets what is in the second list beyond the first one. -/
inductive Walk (table : SlotTable) : List Descriptor → Met → Met → Prop where
  | done {met : Met} : Walk table [] met met
  /-- What is written out is gone through. -/
  | pass {d : Descriptor} {ds : List Descriptor} {met final : Met} (hpath : d.path = [])
      (rest : Walk table (d.parts table ++ ds) met final) : Walk table (d :: ds) met final
  | known {d : Descriptor} {ds : List Descriptor} {met final : Met} (hpath : d.path ≠ [])
      (hkey : d.key ∈ met.map (·.1)) (rest : Walk table ds met final) : Walk table (d :: ds) met final
  | fresh {d : Descriptor} {ds : List Descriptor} {met final : Met} (hpath : d.path ≠ [])
      (hkey : d.key ∉ met.map (·.1))
      (rest : Walk table (d.parts table ++ ds) (met ++ [(d.key, d.fields table)]) final) :
      Walk table (d :: ds) met final

namespace Walk

variable {table : SlotTable} {ds : List Descriptor} {met final : Met}

/-- A walk meets one thing only. -/
theorem unique (h : Walk table ds met final) {other : Met} (h' : Walk table ds met other) : other = final := by
  induction h with
  | done =>
    cases h'
    rfl
  | pass hpath _ ih =>
    cases h' with
    | pass _ rest => exact ih rest
    | known hpath' => exact absurd hpath hpath'
    | fresh hpath' => exact absurd hpath hpath'
  | known hpath hkey _ ih =>
    cases h' with
    | pass hpath' => exact absurd hpath' hpath
    | known _ _ rest => exact ih rest
    | fresh _ hkey' => exact absurd hkey hkey'
  | fresh hpath hkey _ ih =>
    cases h' with
    | pass hpath' => exact absurd hpath' hpath
    | known _ hkey' => exact absurd hkey' hkey
    | fresh _ _ rest => exact ih rest

theorem extends_met (h : Walk table ds met final) : met <+: final := by
  induction h with
  | done => exact List.prefix_rfl
  | pass _ _ ih => exact ih
  | known _ _ _ ih => exact ih
  | fresh _ _ _ ih => exact (List.prefix_append ..).trans ih

end Walk

/-! ## What a walk meets -/

namespace Descriptor

/-- The second descriptor is written in what the first one is rendered as. -/
def Shows (table : SlotTable) : Descriptor → Descriptor → Prop :=
  Relation.ReflTransGen fun whole part => whole.path = [] ∧ part ∈ whole.parts table

/-- All composites that the descriptor refers to by name have been met. -/
def CoveredBy (table : SlotTable) (met : Met) (d : Descriptor) : Prop :=
  ∀ e, d.Shows table e → e.path ≠ [] → e.key ∈ met.map (·.1)

theorem coveredBy_of_path {table : SlotTable} {met : Met} {d : Descriptor} (hpath : d.path ≠ [])
    (hkey : d.key ∈ met.map (·.1)) : d.CoveredBy table met := by
  intro e hshows _
  rcases hshows.cases_head with rfl | ⟨_, ⟨hnone, -⟩, -⟩
  · exact hkey
  · exact absurd hnone hpath

theorem coveredBy_of_parts {table : SlotTable} {met : Met} {d : Descriptor} (hpath : d.path = [])
    (hparts : ∀ part ∈ d.parts table, part.CoveredBy table met) : d.CoveredBy table met := by
  intro e hshows hnamed
  rcases hshows.cases_head with rfl | ⟨part, ⟨-, hpart⟩, hrest⟩
  · exact absurd hpath hnamed
  · exact hparts part hpart e hrest hnamed

end Descriptor

namespace Walk

variable {table : SlotTable} {ds roots : List Descriptor} {met final : Met}

/-- A walk meets only composites that are reached. -/
theorem sound (h : Walk table ds met final) (hds : ∀ d ∈ ds, Descriptor.ReachedFrom table roots d) :
    ∀ entry ∈ final, entry ∈ met ∨
      ∃ d, Descriptor.NamedFrom table roots d ∧ entry = (d.key, d.fields table) := by
  induction h with
  | done => exact fun _ hentry => .inl hentry
  | pass _ _ ih => exact ih (.open hds)
  | known _ _ _ ih => exact ih (List.forall_mem_cons.mp hds).2
  | @fresh d _ _ _ hpath _ _ ih =>
    intro entry hentry
    rcases ih (.open hds) entry hentry with hmet | hreached
    · rcases List.mem_append.mp hmet with hmet | hnew
      · exact .inl hmet
      · exact .inr ⟨d, ⟨hpath, hds d List.mem_cons_self⟩, List.mem_singleton.mp hnew⟩
    · exact .inr hreached

/-- A walk from nothing meets only composites that are reached from where it starts. -/
theorem met_from (h : Walk table roots [] final) :
    ∀ entry ∈ final, ∃ d, Descriptor.NamedFrom table roots d ∧ entry = (d.key, d.fields table) :=
  fun entry hentry => (h.sound Descriptor.reachedFrom_self entry hentry).resolve_left List.not_mem_nil

/-- A walk leaves nothing out that it comes by. -/
theorem covers (h : Walk table ds met final) :
    (∀ d ∈ ds, d.CoveredBy table final) ∧
    ∀ entry ∈ final, entry ∈ met ∨ ∀ field ∈ entry.2, field.type.CoveredBy table final := by
  induction h with
  | done => exact ⟨nofun, fun _ hentry => .inl hentry⟩
  | pass hpath _ ih =>
    refine ⟨fun e he => ?_, ih.2⟩
    rcases List.mem_cons.mp he with rfl | he
    · exact Descriptor.coveredBy_of_parts hpath fun part hpart => ih.1 part (List.mem_append_left _ hpart)
    · exact ih.1 e (List.mem_append_right _ he)
  | known hpath hkey rest ih =>
    refine ⟨fun e he => ?_, ih.2⟩
    rcases List.mem_cons.mp he with rfl | he
    · exact Descriptor.coveredBy_of_path hpath ((rest.extends_met.map _).subset hkey)
    · exact ih.1 e he
  | @fresh d _ met _ hpath _ rest ih =>
    refine ⟨fun e he => ?_, fun entry hentry => ?_⟩
    · rcases List.mem_cons.mp he with rfl | he
      · exact Descriptor.coveredBy_of_path hpath ((rest.extends_met.map _).subset (by simp))
      · exact ih.1 e (List.mem_append_right _ he)
    · rcases ih.2 entry hentry with hmet | hcovered
      · rcases List.mem_append.mp hmet with hmet | hnew
        · exact .inl hmet
        · -- the parts of the composite have been put in front of the rest of the walk
          obtain rfl := List.mem_singleton.mp hnew
          refine .inr fun field hfield => ih.1 _ (List.mem_append_left _ ?_)
          rw [Descriptor.parts_eq_types (Descriptor.isComposite_of_path hpath)]
          exact List.mem_map_of_mem hfield
      · exact .inr hcovered

/-- Where composites with one key have the same fields, a walk meets each composite that is reached. -/
theorem complete (h : Walk table roots [] final) (hconsistent : Descriptor.Consistent table roots)
    {root d : Descriptor} (hroot : root ∈ roots) (hreaches : root.Reaches table d) :
    d.CoveredBy table final := by
  induction hreaches with
  | refl => exact h.covers.1 root hroot
  | @tail whole part hwhole hpart ih =>
    by_cases hpath : whole.path = []
    · exact fun e hshows => ih e (.head ⟨hpath, hpart⟩ hshows)
    · -- the fields behind the key are those of the composite that was met first
      have hwhole' : Descriptor.NamedFrom table roots whole := ⟨hpath, root, hroot, hwhole⟩
      obtain ⟨entry, hentry, hkey⟩ := List.mem_map.mp (ih whole .refl hpath)
      obtain ⟨first, hfirst, rfl⟩ := h.met_from entry hentry
      have hfields := hconsistent first whole hfirst hwhole' hkey
      rw [Descriptor.parts_eq_types (Descriptor.isComposite_of_path hpath), ← hfields] at hpart
      obtain ⟨field, hfield, rfl⟩ := List.mem_map.mp hpart
      exact (h.covers.2 _ hentry).resolve_left List.not_mem_nil field hfield

/-- Where composites with one key have the same fields, a walk meets what is reached, whatever the order. -/
theorem mem_iff (h : Walk table roots [] final) (hconsistent : Descriptor.Consistent table roots)
    {entry : String × List Field} :
    entry ∈ final ↔ ∃ d, Descriptor.NamedFrom table roots d ∧ entry = (d.key, d.fields table) := by
  refine ⟨h.met_from entry, ?_⟩
  rintro ⟨d, hd, rfl⟩
  obtain ⟨hpath, root, hroot, hreaches⟩ := hd
  obtain ⟨entry, hentry, hkey⟩ := List.mem_map.mp (h.complete hconsistent hroot hreaches d .refl hpath)
  obtain ⟨first, hfirst, rfl⟩ := h.met_from entry hentry
  rwa [← hconsistent first d hfirst ⟨hpath, root, hroot, hreaches⟩ hkey, ← hkey]

end Walk

end TypedRpc
