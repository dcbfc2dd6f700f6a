import Mathlib.Data.List.Nodup
import Mathlib.Logic.Relation
import TypedRpc.Descriptor.Basic
import TypedRpc.Proofs.TypeScript.TypeName
import TypedRpc.TypeScript.TypeExpr

/-!
# Descriptors as a graph

A descriptor has parts: the element of a collection, what a layer surrounds, the types of the fields of a
composite. The fields of a deferred list are parts too, so that the graph can have cycles although every
descriptor is a finite tree.
-/

namespace TypedRpc

open TypedRpc.TypeScript

namespace Descriptor

/-- The path of a composite that is defined by name; empty for whatever is written out. -/
def path : Descriptor → List String
  | .named name _ => segments name
  | _ => []

/-- The key of a composite that is defined by name. -/
def key (d : Descriptor) : String :=
  keyOf d.path

/-- The built-in type that a descriptor stands for. -/
def keyword? : Descriptor → Option Keyword
  | .scalar .string | .timestamp => some .string
  | .scalar .number => some .number
  | .scalar .boolean => some .boolean
  | .unknown => some .any
  | _ => none

/-- The descriptor has fields. -/
def isComposite : Descriptor → Bool
  | .named .. | .inline .. => true
  | _ => false

/-- The fields of a composite, read from the table if they are deferred. -/
def fields (table : SlotTable) : Descriptor → List Field
  | .named _ fields | .inline fields => fields.resolve table
  | _ => []

/-- What a descriptor is made of, in the order of declaration. -/
def parts (table : SlotTable) : Descriptor → List Descriptor
  | .sequence element => [element]
  | .optional inner | .wrapper inner => [inner]
  | d => (d.fields table).map Field.type

theorem isComposite_of_path {d : Descriptor} (h : d.path ≠ []) : d.isComposite = true := by
  cases d <;> first | rfl | exact absurd rfl h

theorem parts_eq_types {table : SlotTable} {d : Descriptor} (h : d.isComposite = true) :
    d.parts table = (d.fields table).map Field.type := by
  cases d <;> first | rfl | cases h

theorem parts_of_keyword {table : SlotTable} {d : Descriptor} {word : Keyword}
    (h : d.keyword? = some word) : d.parts table = [] := by
  cases d <;> first | rfl | cases h

theorem isComposite_of_keyword {d : Descriptor} {word : Keyword} (h : d.keyword? = some word) :
    d.isComposite = false := by
  cases d <;> first | rfl | cases h

theorem path_of_keyword {d : Descriptor} {word : Keyword} (h : d.keyword? = some word) : d.path = [] := by
  cases d <;> first | rfl | cases h

/-- The second descriptor is reached from the first one by going from whole to part. -/
def Reaches (table : SlotTable) : Descriptor → Descriptor → Prop :=
  Relation.ReflTransGen fun whole part => part ∈ whole.parts table

/-- The name of a composite as long as no other type has it. -/
def typeName : Descriptor → String
  | .named name _ => TypeScript.typeName name
  | _ => ""

theorem scopedName?_path {d : Descriptor} (h : d.path ≠ []) : scopedName? d.path 0 = some d.typeName := by
  cases d with
  | named name fields =>
    change segments name ≠ [] at h
    simp only [path, typeName, TypeScript.typeName]
    match segments name, h with
    | [_], _ => rfl
    | _ :: _ :: _, _ => simp [scopedName?]
  | _ => exact absurd rfl h

/-! ## Composites in the types of a program -/

/-- One of the descriptors reaches this one. -/
def ReachedFrom (table : SlotTable) (roots : List Descriptor) (d : Descriptor) : Prop :=
  ∃ root ∈ roots, root.Reaches table d

/-- A composite that is defined by name, and which one of the descriptors reaches. -/
def NamedFrom (table : SlotTable) (roots : List Descriptor) (d : Descriptor) : Prop :=
  d.path ≠ [] ∧ ReachedFrom table roots d

/-- The descriptors reach a composite with this key. -/
def KeyFrom (table : SlotTable) (roots : List Descriptor) (key : String) : Prop :=
  ∃ d, NamedFrom table roots d ∧ d.key = key

/-- A composite with the key of this one is reached from its fields. -/
def ContainsOwnKey (table : SlotTable) (d : Descriptor) : Prop :=
  KeyFrom table (d.parts table) d.key

/-- No composite contains its own key. -/
def Acyclic (table : SlotTable) (roots : List Descriptor) : Prop :=
  ∀ d, NamedFrom table roots d → ¬ d.ContainsOwnKey table

/-- Composites with one key have the same fields. -/
def Consistent (table : SlotTable) (roots : List Descriptor) : Prop :=
  ∀ d e, NamedFrom table roots d → NamedFrom table roots e → d.key = e.key → d.fields table = e.fields table

/-- Composites with different keys have different names to begin with. -/
def Distinct (table : SlotTable) (roots : List Descriptor) : Prop :=
  ∀ d e, NamedFrom table roots d → NamedFrom table roots e → d.typeName = e.typeName → d.key = e.key

/-- Composites with one key have the same name to begin with. -/
def Unambiguous (table : SlotTable) (roots : List Descriptor) : Prop :=
  ∀ d e, NamedFrom table roots d → NamedFrom table roots e → d.key = e.key → d.typeName = e.typeName

section

variable {table : SlotTable} {roots roots' ds : List Descriptor} {d : Descriptor}

theorem reachedFrom_self : ∀ root ∈ roots, ReachedFrom table roots root :=
  fun root hroot => ⟨root, hroot, .refl⟩

theorem ReachedFrom.part (h : ReachedFrom table roots d) :
    ∀ part ∈ d.parts table, ReachedFrom table roots part := by
  obtain ⟨root, hroot, hreaches⟩ := h
  exact fun part hpart => ⟨root, hroot, hreaches.tail hpart⟩

/-- The types of all these fields are reached. -/
def FieldsReachedFrom (table : SlotTable) (roots : List Descriptor) (fields : List Field) : Prop :=
  ∀ field ∈ fields, ReachedFrom table roots field.type

theorem ReachedFrom.fields (h : ReachedFrom table roots d) : FieldsReachedFrom table roots (d.fields table) := by
  intro field hfield
  refine h.part field.type ?_
  cases d with
  | named | inline => exact List.mem_map_of_mem hfield
  | _ => exact absurd hfield List.not_mem_nil

/-- What is reached lies in each set that holds the descriptors and, with a descriptor, its parts. -/
theorem ReachedFrom.mem_of_closed {S : Descriptor → Prop} (hroots : ∀ root ∈ roots, S root)
    (hclosed : ∀ d, S d → ∀ part ∈ d.parts table, S part) (h : ReachedFrom table roots d) : S d := by
  obtain ⟨root, hroot, hreaches⟩ := h
  induction hreaches with
  | refl => exact hroots root hroot
  | tail _ hpart ih => exact hclosed _ ih _ hpart

/-- Descriptors without parts reach themselves only. -/
theorem ReachedFrom.mem_of_flat (hflat : ∀ root ∈ roots, root.parts table = [])
    (h : ReachedFrom table roots d) : d ∈ roots := by
  refine h.mem_of_closed (S := (· ∈ roots)) (fun _ hroot => hroot) fun root hroot part hpart => ?_
  rw [hflat root hroot] at hpart
  exact absurd hpart List.not_mem_nil

/-- The parts of a descriptor in its place. -/
theorem ReachedFrom.open (h : ∀ e ∈ d :: ds, ReachedFrom table roots e) :
    ∀ e ∈ d.parts table ++ ds, ReachedFrom table roots e := by
  intro e he
  rcases List.mem_append.mp he with hpart | hrest
  · exact (h d List.mem_cons_self).part e hpart
  · exact h e (List.mem_cons_of_mem _ hrest)

theorem ReachedFrom.of_subset (hsubset : roots ⊆ roots') (h : ReachedFrom table roots d) :
    ReachedFrom table roots' d := by
  obtain ⟨root, hroot, hreaches⟩ := h
  exact ⟨root, hsubset hroot, hreaches⟩

theorem NamedFrom.of_subset (hsubset : roots ⊆ roots') (h : NamedFrom table roots d) : NamedFrom table roots' d :=
  ⟨h.1, h.2.of_subset hsubset⟩

/-- What descriptors reach that are reached themselves, is reached. -/
theorem ReachedFrom.of_reached (h : ReachedFrom table ds d) (hds : ∀ e ∈ ds, ReachedFrom table roots e) :
    ReachedFrom table roots d := by
  obtain ⟨e, he, hbelow⟩ := h
  obtain ⟨root, hroot, habove⟩ := hds e he
  exact ⟨root, hroot, habove.trans hbelow⟩

theorem ReachedFrom.eq_or_below {e : Descriptor} (h : ReachedFrom table [d] e) :
    e = d ∨ ReachedFrom table (d.parts table) e := by
  obtain ⟨root, hroot, hreaches⟩ := h
  obtain rfl := List.mem_singleton.mp hroot
  rcases hreaches.cases_head with heq | ⟨part, hpart, hbelow⟩
  · exact .inl heq.symm
  · exact .inr ⟨part, hpart, hbelow⟩

theorem KeyFrom.of_reached {key : String} (h : KeyFrom table ds key) (hds : ∀ e ∈ ds, ReachedFrom table roots e) :
    KeyFrom table roots key := by
  obtain ⟨d, ⟨hpath, hd⟩, hkey⟩ := h
  exact ⟨d, ⟨hpath, hd.of_reached hds⟩, hkey⟩

theorem KeyFrom.of_subset {key : String} (hsubset : roots ⊆ roots') (h : KeyFrom table roots key) :
    KeyFrom table roots' key :=
  h.of_reached fun e he => reachedFrom_self e (hsubset he)

theorem KeyFrom.of_parts {key : String} (h : KeyFrom table (d.parts table) key) : KeyFrom table (d :: ds) key :=
  h.of_reached (reachedFrom_self d List.mem_cons_self).part

/-- What is reached does not depend on the order of the descriptors. -/
theorem namedFrom_perm (hperm : roots.Perm roots') : NamedFrom table roots d ↔ NamedFrom table roots' d := by
  simp only [NamedFrom, ReachedFrom, hperm.mem_iff]

/-- Where no segment holds a colon, a key is the key of one path only. -/
theorem unambiguous_of_colonFree (h : ∀ d, NamedFrom table roots d → ColonFree d.path) :
    Unambiguous table roots := by
  intro d e hd he hkey
  cases d with
  | named p _ =>
    cases e with
    | named q _ =>
      have hpath : segments p = segments q := (keyOf_inj (h _ hd)).mp hkey
      simp only [typeName, TypeScript.typeName, hpath]
    | _ => exact absurd rfl he.1
  | _ => exact absurd rfl hd.1

/-! Where all composites that are reached are among a few with different keys and names, they agree. -/

variable {nodes : List Descriptor}

theorem consistent_of_nodup (hnodes : ∀ d, NamedFrom table roots d → d ∈ nodes) (hkeys : (nodes.map key).Nodup) :
    Consistent table roots :=
  fun d e hd he hkey =>
    congrArg (fields table) (List.inj_on_of_nodup_map hkeys (hnodes d hd) (hnodes e he) hkey)

theorem distinct_of_nodup (hnodes : ∀ d, NamedFrom table roots d → d ∈ nodes) (hnames : (nodes.map typeName).Nodup) :
    Distinct table roots :=
  fun d e hd he hname => congrArg key (List.inj_on_of_nodup_map hnames (hnodes d hd) (hnodes e he) hname)

theorem unambiguous_of_nodup (hnodes : ∀ d, NamedFrom table roots d → d ∈ nodes) (hkeys : (nodes.map key).Nodup) :
    Unambiguous table roots :=
  fun d e hd he hkey => congrArg typeName (List.inj_on_of_nodup_map hkeys (hnodes d hd) (hnodes e he) hkey)

end

end Descriptor

end TypedRpc
