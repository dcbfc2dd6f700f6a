import TypedRpc.Compiler.State
import Mathlib.Data.Finset.Card
import Mathlib.Data.List.Nodup

/-!
# The table of names

`names` and `owners` are the two directions of one table, and a definition belongs to a name in it. The search
for a fresh name always ends with a name that nobody owns, since there are more candidates than owned names.
-/

namespace TypedRpc.Compiler

open TypedRpc.Text TypedRpc.TypeScript

/-! ## Looking up -/

theorem lookup_eq_none_iff {β : Type} {l : List (String × β)} {key : String} :
    l.lookup key = none ↔ key ∉ l.map (·.1) := by
  rw [List.lookup_eq_none_iff]
  simp only [List.mem_map, not_exists, not_and, bne_iff_ne, ne_eq]
  exact ⟨fun h entry hentry heq => h entry hentry heq.symm, fun h entry hentry heq => h entry hentry heq.symm⟩

theorem exists_lookup_of_mem {β : Type} {l : List (String × β)} {key : String} (h : key ∈ l.map (·.1)) :
    ∃ value, l.lookup key = some value := by
  rw [← Option.ne_none_iff_exists', ne_eq, lookup_eq_none_iff, not_not]
  exact h

theorem mem_of_lookup {β : Type} {l : List (String × β)} {key : String} {value : β}
    (h : l.lookup key = some value) : (key, value) ∈ l := by
  obtain ⟨l₁, l₂, rfl, _⟩ := List.lookup_eq_some_iff.mp h
  simp

/-- With each key once, looking up is membership. -/
theorem lookup_of_mem {β : Type} {l : List (String × β)} (hkeys : (l.map (·.1)).Nodup) {key : String}
    {value : β} (h : (key, value) ∈ l) : l.lookup key = some value := by
  obtain ⟨l₁, l₂, rfl⟩ := List.append_of_mem h
  refine List.lookup_eq_some_iff.mpr ⟨l₁, l₂, rfl, fun entry hentry => ?_⟩
  simp only [List.map_append, List.map_cons, List.nodup_append, List.nodup_cons] at hkeys
  have := hkeys.2.2 entry.1 (List.mem_map_of_mem hentry) key (by simp)
  simpa using Ne.symm this

/-! ## Fresh names -/

/-- The names that somebody owns. -/
def ownedNames (c : Compiler) : Finset String :=
  (c.owners.map (·.1)).toFinset

theorem isFree_iff {c : Compiler} {name : String} :
    c.isFree name = true ↔ c.owners.lookup name = none := by
  simp [isFree]

theorem isFree_iff_notMem {c : Compiler} {name : String} : c.isFree name = true ↔ name ∉ c.ownedNames := by
  rw [isFree_iff, lookup_eq_none_iff, ownedNames, List.mem_toFinset]

theorem isFree_eq_false_iff {c : Compiler} {name : String} : c.isFree name = false ↔ name ∈ c.ownedNames := by
  rw [← Bool.not_eq_true, isFree_iff_notMem, not_not]

theorem card_ownedNames_le (c : Compiler) : c.ownedNames.card ≤ c.owners.length := by
  rw [← List.length_map (·.1)]
  exact List.toFinset_card_le _

/-- A number can be read off the end of a name. -/
theorem numberedName_injective {segments : List String} {i j : Nat}
    (h : numberedName segments i = numberedName segments j) : i = j := by
  have hdigits : (Nat.repr (i + 2)).toList = (Nat.repr (j + 2)).toList := by
    have := congrArg String.toList h
    -- both names begin with the joined segments, so what is left are the digits
    simpa [numberedName] using this
  rw [Nat.toList_repr, Nat.toList_repr] at hdigits
  have := congrArg (Nat.ofDigitChars 10 · 0) hdigits
  simp only [Nat.ofDigitChars_ten_toDigits] at this
  omega

theorem lt_length_of_scopedName? {segments : List String} {extra : Nat} {name : String}
    (h : scopedName? segments extra = some name) : extra < segments.length := by
  unfold scopedName? at h
  split at h
  · cases h
  · split at h
    · simp [*]
    · cases h
  · split at h
    · omega
    · cases h

theorem exists_of_find?_scopedNames {c : Compiler} {segments : List String} {name : String}
    (h : (scopedNames segments).find? c.isFree = some name) :
    name ∉ c.ownedNames ∧ ∃ extra, scopedName? segments extra = some name ∧
      ∀ fewer < extra, ∀ shorter ∈ scopedName? segments fewer, shorter ∈ c.ownedNames := by
  rw [scopedNames, List.find?_filterMap, Option.bind_eq_some_iff] at h
  obtain ⟨extra, hextra, hname⟩ := h
  obtain ⟨hfree, -, hfewer⟩ := List.find?_range_eq_some.mp hextra
  rw [hname] at hfree
  refine ⟨isFree_iff_notMem.mp hfree, extra, hname, fun fewer hlt shorter hshorter => ?_⟩
  have howned := hfewer fewer hlt
  rw [Option.mem_def.mp hshorter] at howned
  exact isFree_eq_false_iff.mp (by simpa using howned)

theorem mem_ownedNames_of_find?_scopedNames {c : Compiler} {segments : List String}
    (h : (scopedNames segments).find? c.isFree = none) :
    ∀ extra, ∀ name ∈ scopedName? segments extra, name ∈ c.ownedNames := by
  intro extra name hname
  have hmem : name ∈ scopedNames segments :=
    List.mem_filterMap.mpr ⟨extra, List.mem_range.mpr (lt_length_of_scopedName? hname), hname⟩
  exact isFree_eq_false_iff.mp (by simpa using List.find?_eq_none.mp h name hmem)

/-- There are more numbered names than owned names up to this number, so one of them is free. -/
theorem exists_free_numberedName (c : Compiler) (segments : List String) :
    ∃ i ≤ c.ownedNames.card, numberedName segments i ∉ c.ownedNames := by
  have hcard : c.ownedNames.card < ((Finset.range (c.ownedNames.card + 1)).image (numberedName segments)).card := by
    rw [Finset.card_image_of_injective _ fun _ _ => numberedName_injective, Finset.card_range]
    omega
  obtain ⟨name, hname, hfree⟩ := Finset.exists_mem_notMem_of_card_lt_card hcard
  obtain ⟨i, hi, rfl⟩ := Finset.mem_image.mp hname
  exact ⟨i, Nat.lt_succ_iff.mp (Finset.mem_range.mp hi), hfree⟩

/-- The search through the numbered names finds the first of all numbered names that is free. -/
theorem exists_find?_numberedName (c : Compiler) (segments : List String) :
    ∃ i ≤ c.ownedNames.card,
      ((List.range (c.owners.length + 1)).map (numberedName segments)).find? c.isFree =
        some (numberedName segments i) ∧
      numberedName segments i ∉ c.ownedNames ∧ ∀ j < i, numberedName segments j ∈ c.ownedNames := by
  obtain ⟨k, hk, hfree⟩ := exists_free_numberedName c segments
  rw [List.find?_map]
  cases hfound : (List.range (c.owners.length + 1)).find? (c.isFree ∘ numberedName segments) with
  | none =>
    -- the search goes far enough to meet a free one
    have hlt : k < c.owners.length + 1 := Nat.lt_succ_of_le (hk.trans c.card_ownedNames_le)
    have howned := List.find?_range_eq_none.mp hfound k hlt
    exact absurd (isFree_eq_false_iff.mp (by simpa using howned)) hfree
  | some i =>
    obtain ⟨hi, -, hbefore⟩ := List.find?_range_eq_some.mp hfound
    have hbefore : ∀ j < i, numberedName segments j ∈ c.ownedNames := fun j hj =>
      isFree_eq_false_iff.mp (by simpa using hbefore j hj)
    have hle : i ≤ k := Nat.le_of_not_lt fun hlt => hfree (hbefore k hlt)
    exact ⟨i, hle.trans hk, rfl, isFree_iff_notMem.mp hi, hbefore⟩

/-- The name that is found is the shortest scoped one that is free. If all of them are owned, it is the first numbered
one that is free, and no more numbered ones are tried before than there are owned names. -/
theorem freshName_cases (c : Compiler) (segments : List String) :
    (∃ extra, scopedName? segments extra = some (c.freshName segments) ∧ c.freshName segments ∉ c.ownedNames ∧
      ∀ fewer < extra, ∀ shorter ∈ scopedName? segments fewer, shorter ∈ c.ownedNames) ∨
    ((∀ extra, ∀ name ∈ scopedName? segments extra, name ∈ c.ownedNames) ∧
      ∃ i ≤ c.ownedNames.card, c.freshName segments = numberedName segments i ∧
        numberedName segments i ∉ c.ownedNames ∧ ∀ j < i, numberedName segments j ∈ c.ownedNames) := by
  cases hfound : (scopedNames segments).find? c.isFree with
  | some name =>
    have hname : c.freshName segments = name := by rw [freshName, hfound]
    obtain ⟨hfree, extra, hextra, hfewer⟩ := exists_of_find?_scopedNames hfound
    rw [hname]
    exact .inl ⟨extra, hextra, hfree, hfewer⟩
  | none =>
    obtain ⟨i, hi, hnumbered, hfree, hbefore⟩ := exists_find?_numberedName c segments
    have hname : c.freshName segments = numberedName segments i := by
      rw [freshName, hfound, hnumbered]
      rfl
    exact .inr ⟨mem_ownedNames_of_find?_scopedNames hfound, i, hi, hname, hfree, hbefore⟩

theorem freshName_isFree (c : Compiler) (segments : List String) :
    c.isFree (c.freshName segments) = true := by
  rw [isFree_iff_notMem]
  rcases freshName_cases c segments with ⟨extra, -, hfree, -⟩ | ⟨-, i, -, hname, hfree, -⟩
  · exact hfree
  · rwa [hname]

/-- The shortest name is the one that is given out, as long as nobody owns it. -/
theorem freshName_eq_scopedName {c : Compiler} {segments : List String} {name : String}
    (hname : scopedName? segments 0 = some name) (hfree : c.isFree name = true) :
    c.freshName segments = name := by
  have hfree : name ∉ c.ownedNames := isFree_iff_notMem.mp hfree
  rcases freshName_cases c segments with ⟨extra, hextra, -, hfewer⟩ | ⟨howned, -⟩
  · rcases Nat.eq_zero_or_pos extra with rfl | hpos
    · exact Option.some.inj (hextra.symm.trans hname)
    · exact absurd (hfewer 0 hpos name hname) hfree
  · exact absurd (howned 0 name hname) hfree

/-! ## Assigning a name -/

theorem lookup_give {c : Compiler} {key name k n : String} (h : (c.give key name).names.lookup k = some n) :
    c.names.lookup k = some n ∨ (k = key ∧ n = name) := by
  simp only [give, List.lookup_append, Option.or_eq_some_iff] at h
  rcases h with hknown | ⟨-, hnew⟩
  · exact .inl hknown
  · exact .inr (by simpa using mem_of_lookup hnew)

theorem assignName_known {c : Compiler} {segments : List String} {name : String}
    (h : c.names.lookup (keyOf segments) = some name) : c.assignName segments = (name, c) := by
  simp [assignName, h]

theorem assignName_new {c : Compiler} {segments : List String}
    (h : c.names.lookup (keyOf segments) = none) :
    c.assignName segments = (c.freshName segments, c.give (keyOf segments) (c.freshName segments)) := by
  simp [assignName, h]

/-- Either the key has its name, or it is given one that nobody owns. -/
theorem assignName_cases (c : Compiler) (segments : List String) :
    (∃ name, c.names.lookup (keyOf segments) = some name ∧ c.assignName segments = (name, c)) ∨
    (∃ name, c.names.lookup (keyOf segments) = none ∧ c.owners.lookup name = none ∧
      name = c.freshName segments ∧ c.assignName segments = (name, c.give (keyOf segments) name)) := by
  cases h : c.names.lookup (keyOf segments) with
  | some name => exact .inl ⟨name, rfl, assignName_known h⟩
  | none =>
    exact .inr ⟨_, rfl, isFree_iff.mp (freshName_isFree c segments), rfl, assignName_new h⟩

/-- Afterwards the key has the name that was answered. -/
theorem lookup_assignName (c : Compiler) (segments : List String) :
    (c.assignName segments).2.names.lookup (keyOf segments) = some (c.assignName segments).1 := by
  rcases assignName_cases c segments with ⟨name, hname, heq⟩ | ⟨name, hnone, -, -, heq⟩
  · rw [heq, hname]
  · simp [heq, give, List.lookup_append, hnone]

theorem lookup_of_assignName {c c' : Compiler} {segments : List String} {name : String}
    (h : c.assignName segments = (name, c')) : c'.names.lookup (keyOf segments) = some name := by
  simpa [h] using lookup_assignName c segments

@[simp] theorem assignName_definitions (c : Compiler) (segments : List String) :
    (c.assignName segments).2.definitions = c.definitions := by
  rcases assignName_cases c segments with ⟨_, _, heq⟩ | ⟨_, _, _, _, heq⟩ <;> simp [heq, give]

theorem definitions_of_assignName {c c' : Compiler} {segments : List String} {name : String}
    (h : c.assignName segments = (name, c')) : c'.definitions = c.definitions := by
  simpa [h] using assignName_definitions c segments

/-! ## Definitions -/

theorem definition?_eq_none {c : Compiler} {name : String} :
    c.definition? name = none ↔ name ∉ c.definitions.map (·.name) := by
  simp [definition?]

theorem definition?_isSome {c : Compiler} {name : String} :
    (c.definition? name).isSome = true ↔ name ∈ c.definitions.map (·.name) := by
  rw [Option.isSome_iff_ne_none, ne_eq, definition?_eq_none, not_not]

theorem define_of_none {c : Compiler} {definition : Definition}
    (h : c.definition? definition.name = none) :
    c.define definition = { c with definitions := c.definitions ++ [definition] } := by
  simp [define, h]

@[simp] theorem define_names (c : Compiler) (definition : Definition) :
    (c.define definition).names = c.names := by
  unfold define
  split <;> rfl

/-! ## Coherence -/

/-- The two directions of the table agree, and each definition belongs to a name that somebody owns. -/
structure Coherent (c : Compiler) : Prop where
  keys : (c.names.map (·.1)).Nodup
  inverse {key name : String} : c.names.lookup key = some name ↔ c.owners.lookup name = some key
  owned {definition : Definition} :
    definition ∈ c.definitions → ∃ key, c.owners.lookup definition.name = some key
  unique : (c.definitions.map (·.name)).Nodup

theorem Coherent.empty : Coherent empty where
  keys := by simp [Compiler.empty]
  inverse := by simp [Compiler.empty]
  owned := by simp [Compiler.empty]
  unique := by simp [Compiler.empty]

theorem Coherent.enter {c : Compiler} (h : c.Coherent) (key : String) : (c.enter key).Coherent :=
  ⟨h.keys, h.inverse, h.owned, h.unique⟩

theorem Coherent.leave {c : Compiler} (h : c.Coherent) (key : String) : (c.leave key).Coherent :=
  ⟨h.keys, h.inverse, h.owned, h.unique⟩

theorem Coherent.withDepth {c : Compiler} (h : c.Coherent) (depth : Nat) :
    { c with inlineDepth := depth }.Coherent :=
  ⟨h.keys, h.inverse, h.owned, h.unique⟩

/-- No two keys have one name. -/
theorem Coherent.injective {c : Compiler} (h : c.Coherent) {k l name : String}
    (hk : c.names.lookup k = some name) (hl : c.names.lookup l = some name) : k = l := by
  rw [h.inverse] at hk hl
  exact Option.some.inj (hk.symm.trans hl)

/-- A name that nobody owns has no definition. -/
theorem Coherent.undefined {c : Compiler} (h : c.Coherent) {name : String}
    (hfree : c.owners.lookup name = none) : c.definition? name = none := by
  refine definition?_eq_none.mpr fun hmem => ?_
  obtain ⟨definition, hd, rfl⟩ := List.mem_map.mp hmem
  obtain ⟨key, hkey⟩ := h.owned hd
  simp [hfree] at hkey

theorem Coherent.give {c : Compiler} (h : c.Coherent) {key name : String}
    (hkey : c.names.lookup key = none) (hname : c.owners.lookup name = none) :
    (c.give key name).Coherent where
  keys := by
    have hnew : key ∉ c.names.map (·.1) := lookup_eq_none_iff.mp hkey
    simp only [Compiler.give, List.map_append, List.map_cons, List.map_nil]
    exact h.keys.append (List.nodup_singleton key) (by simpa using hnew)
  inverse := by
    intro k n
    simp only [Compiler.give, List.lookup_append, List.lookup_singleton]
    by_cases hk : k = key <;> by_cases hn : n = name
    · simp [hk, hn, hkey, hname]
    · have : c.owners.lookup n ≠ some key := by
        intro howner
        rw [← h.inverse, hkey] at howner
        cases howner
      simp [hk, hn, hkey, this, Ne.symm hn]
    · have : c.names.lookup k ≠ some name := by
        intro hnamed
        rw [h.inverse, hname] at hnamed
        cases hnamed
      simp [hk, hn, hname, this, Ne.symm hk]
    · simp [hk, hn, h.inverse]
  owned := by
    intro definition hd
    obtain ⟨owner, howner⟩ := h.owned hd
    exact ⟨owner, by simp [Compiler.give, List.lookup_append, howner]⟩
  unique := h.unique

theorem Coherent.assignName {c : Compiler} (h : c.Coherent) (segments : List String) :
    (c.assignName segments).2.Coherent := by
  rcases assignName_cases c segments with ⟨name, _, heq⟩ | ⟨name, hkey, hname, _, heq⟩
  · rw [heq]
    exact h
  · rw [heq]
    exact h.give hkey hname

theorem Coherent.of_assignName {c c' : Compiler} (h : c.Coherent) {segments : List String} {name : String}
    (hassign : c.assignName segments = (name, c')) : c'.Coherent := by
  simpa [hassign] using h.assignName segments

theorem Coherent.define {c : Compiler} (h : c.Coherent) {key : String} {definition : Definition}
    (hkey : c.names.lookup key = some definition.name) : (c.define definition).Coherent := by
  cases hdef : c.definition? definition.name with
  | some _ => simpa [Compiler.define, hdef] using h
  | none =>
    rw [define_of_none hdef]
    refine ⟨h.keys, h.inverse, ?_, ?_⟩
    · intro d hd
      rcases List.mem_append.mp hd with hd | hd
      · exact h.owned hd
      · obtain rfl := List.mem_singleton.mp hd
        exact ⟨key, h.inverse.mp hkey⟩
    · rw [List.map_append]
      exact h.unique.append (List.nodup_singleton _) (by simpa using definition?_eq_none.mp hdef)

end TypedRpc.Compiler
