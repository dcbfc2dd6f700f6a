import TypedRpc.Proofs.Client.Compiled
import TypedRpc.Proofs.Compiler.Failing
import TypedRpc.Proofs.Compiler.Nesting

/-!
# When there is a client

A client can be missing for one reason only: composites that are written out are nested deeper than the limit. Where
they contain each other without a name in between, this happens in every order of the handlers. Where names lie in
between, it depends on the names that are already defined when the trail comes by, and so on the order.
-/

namespace TypedRpc

open TypedRpc.TypeScript

namespace Descriptor

/-- Some trail from one of the descriptors is nested deeper than the limit. -/
def DeepTrail (table : SlotTable) (roots : List Descriptor) : Prop :=
  ∃ root ∈ roots, ∃ rest, Trail table [] (root :: rest) ∧ Compiler.inlineLimit < nesting (root :: rest)

/-- Somewhere a trail on which everything is written out is nested deeper than the limit. -/
def DeepWrittenOut (table : SlotTable) (roots : List Descriptor) : Prop :=
  ∃ d, ReachedFrom table roots d ∧ ∃ rest, WrittenOut table (d :: rest) ∧ Compiler.inlineLimit < nesting (d :: rest)

variable {table : SlotTable} {roots roots' : List Descriptor}

theorem DeepTrail.mono (h : roots ⊆ roots') (hdeep : DeepTrail table roots) : DeepTrail table roots' := by
  obtain ⟨root, hroot, hrest⟩ := hdeep
  exact ⟨root, h hroot, hrest⟩

theorem deepTrail_perm (hperm : roots.Perm roots') : DeepTrail table roots ↔ DeepTrail table roots' :=
  ⟨.mono hperm.subset, .mono hperm.symm.subset⟩

theorem deepWrittenOut_perm (hperm : roots.Perm roots') : DeepWrittenOut table roots ↔ DeepWrittenOut table roots' := by
  simp only [DeepWrittenOut, ReachedFrom, hperm.mem_iff]

theorem consistent_perm (hperm : roots.Perm roots') (h : Consistent table roots) : Consistent table roots' :=
  fun d e hd he => h d e ((namedFrom_perm hperm).mpr hd) ((namedFrom_perm hperm).mpr he)

end Descriptor

namespace Client

open Descriptor

theorem compileSignature_error {slots : SlotTable} {signature : Signature} {c c' : Compiler} {e : GenerationError}
    (hprocessing : c.processing = []) (hdepth : c.inlineDepth = 0)
    (h : Registry.compileSignature slots signature c = (.error e, c')) :
    e = .nestedTooDeep ∧ DeepTrail slots [signature.input, signature.output] := by
  unfold Registry.compileSignature at h
  split at h
  · rename_i hinput
    cases h
    obtain ⟨rfl, rest, htrail⟩ := Compiler.compile_error hprocessing hdepth hinput
    exact ⟨rfl, _, List.mem_cons_self, rest, htrail⟩
  · rename_i input c₁ hinput
    have hgrows := (Compiler.compile_ok hinput).grows
    split at h
    · rename_i houtput
      cases h
      obtain ⟨rfl, rest, htrail⟩ := Compiler.compile_error (hgrows.processing.trans hprocessing)
        (hgrows.inlineDepth.trans hdepth) houtput
      exact ⟨rfl, _, List.mem_cons_of_mem _ List.mem_cons_self, rest, htrail⟩
    · cases h

theorem compileAll_error {slots : SlotTable} {registrations : List Registration} {c c' : Compiler}
    {e : GenerationError} (hprocessing : c.processing = []) (hdepth : c.inlineDepth = 0)
    (h : compileAll slots registrations c = (.error e, c')) :
    e = .nestedTooDeep ∧ DeepTrail slots (registrations.flatMap Registration.types) := by
  induction registrations generalizing c with
  | nil => cases h
  | cons registration rest ih =>
    rw [List.flatMap_cons]
    rw [compileAll] at h
    split at h
    · rename_i hsignature
      cases h
      obtain ⟨rfl, hdeep⟩ := compileSignature_error hprocessing hdepth hsignature
      exact ⟨rfl, hdeep.mono (List.subset_append_left ..)⟩
    · rename_i compiled c₁ hsignature
      have hgrows := (compileSignature_ok hsignature).grows
      generalize hrest : compileAll slots rest c₁ = outcome at h
      obtain ⟨_ | aliases, c₂⟩ := outcome
      · cases h
        obtain ⟨rfl, hdeep⟩ := ih (hgrows.processing.trans hprocessing) (hgrows.inlineDepth.trans hdepth) hrest
        exact ⟨rfl, hdeep.mono (List.subset_append_right ..)⟩
      · cases h

/-- Without a client there is a trail that is nested too deep. -/
theorem ofRegistry_error {registry : Registry} {e : GenerationError} (h : ofRegistry registry = .error e) :
    e = .nestedTooDeep ∧ DeepTrail registry.slots registry.types := by
  unfold ofRegistry at h
  split at h
  · rename_i hrun
    cases h
    exact compileAll_error rfl rfl hrun
  · cases h

theorem exists_client_of_not_deepTrail {registry : Registry} (h : ¬ DeepTrail registry.slots registry.types) :
    ∃ client, ofRegistry registry = .ok client := by
  cases hrun : ofRegistry registry with
  | error e => exact absurd (ofRegistry_error hrun).2 h
  | ok client => exact ⟨client, rfl⟩

/-- With a client, nothing that is written out is nested too deep. -/
theorem not_deepWrittenOut {registry : Registry} {client : Client} (h : ofRegistry registry = .ok client)
    (hconsistent : Consistent registry.slots registry.types) : ¬ DeepWrittenOut registry.slots registry.types := by
  obtain ⟨c, hrun, -⟩ := ofRegistry_ok h
  rintro ⟨d, hd, rest, hrest, hdeep⟩
  exact absurd (hrun.reached_nestedWithin hconsistent hd rest hrest) (Nat.not_le_of_lt hdeep)

/-- **Where only what is written out nests too deep, the order of the handlers decides nothing.** -/
theorem exists_client_perm {registry : Registry} {handlers : List (String × Registration)}
    (hperm : registry.handlers.Perm handlers) (hconsistent : Consistent registry.slots registry.types)
    (hnesting : DeepTrail registry.slots registry.types → DeepWrittenOut registry.slots registry.types) :
    (∃ client, ofRegistry registry = .ok client) ↔ ∃ client, ofRegistry { registry with handlers } = .ok client := by
  have hregistrations : registry.registrations.Perm (Registry.registrations { registry with handlers }) :=
    hperm.map Prod.snd
  have htypes : registry.types.Perm (Registry.types { registry with handlers }) :=
    hregistrations.flatMap_right _
  by_cases hdeep : DeepWrittenOut registry.slots registry.types
  · refine ⟨fun ⟨client, hclient⟩ => absurd hdeep (not_deepWrittenOut hclient hconsistent), ?_⟩
    rintro ⟨client, hclient⟩
    exact absurd ((deepWrittenOut_perm htypes).mp hdeep)
      (not_deepWrittenOut hclient (consistent_perm htypes hconsistent))
  · have hshallow : ¬ DeepTrail registry.slots registry.types := fun htrail => hdeep (hnesting htrail)
    exact ⟨fun _ => exists_client_of_not_deepTrail fun htrail => hshallow ((deepTrail_perm htypes).mpr htrail),
      fun _ => exists_client_of_not_deepTrail hshallow⟩

/-- A user with an address that is written out, and the address alone. -/
theorem exists_client_perm_user :
    let address : Descriptor := .inline (.listed [.plain "street" .string])
    let user : Descriptor := .named "app::User" (.listed [.plain "address" address])
    let first : RouteIdentity := ⟨"users", "show", by decide, by decide⟩
    let second : RouteIdentity := ⟨"users", "move", by decide, by decide⟩
    let entry := fun identity type =>
      (identity.key, (Registry.empty .root []).record identity ⟨type, type⟩)
    let registry : Registry := ⟨.root, [], [entry first user, entry second address]⟩
    let handlers := [entry second address, entry first user]
    registry.handlers.Perm handlers ∧ Consistent registry.slots registry.types ∧
    ¬ DeepTrail registry.slots registry.types ∧
    ∃ client client', ofRegistry registry = .ok client ∧ ofRegistry { registry with handlers } = .ok client' := by
  intro address user first second entry registry handlers
  have hperm : registry.handlers.Perm handlers := .swap ..
  have hnodes (d : Descriptor) (hd : ReachedFrom registry.slots registry.types d) :
      d = user ∨ d = address ∨ d = .string := by
    refine hd.mem_of_closed (S := fun d => d = user ∨ d = address ∨ d = .string) (fun root hroot => ?_)
      (fun d hd part hpart => ?_)
    · have hroot : root ∈ [user, user, address, address] := hroot
      simp only [List.mem_cons, List.not_mem_nil, or_false] at hroot
      rcases hroot with rfl | rfl | rfl | rfl <;> simp
    · rcases hd with rfl | rfl | rfl
      · exact .inr (.inl (List.mem_singleton.mp hpart))
      · exact .inr (.inr (List.mem_singleton.mp hpart))
      · exact absurd hpart List.not_mem_nil
  have hconsistent : Consistent registry.slots registry.types := by
    intro d e hd he _
    rcases hnodes d hd.2 with rfl | rfl | rfl
    · rcases hnodes e he.2 with rfl | rfl | rfl
      · rfl
      · exact absurd rfl he.1
      · exact absurd rfl he.1
    · exact absurd rfl hd.1
    · exact absurd rfl hd.1
  -- no trail goes further than from the user to the address and to its street
  have hstreet {met rest} (h : Trail [] met (.string :: rest)) : nesting (.string :: rest) ≤ 0 := by
    cases h with
    | last => exact Nat.le_refl _
    | pass _ hpart => exact absurd hpart List.not_mem_nil
    | enter hpath => exact absurd rfl hpath
  have haddress {met rest} (h : Trail [] met (address :: rest)) : nesting (address :: rest) ≤ 1 := by
    cases h with
    | last => exact Nat.le_refl _
    | pass _ hpart next =>
      obtain rfl := List.mem_singleton.mp hpart
      rw [nesting_cons_of_composite rfl rfl]
      exact Nat.succ_le_succ (hstreet next)
    | enter hpath => exact absurd rfl hpath
  have huser {met rest} (h : Trail [] met (user :: rest)) : nesting (user :: rest) ≤ 1 := by
    cases h with
    | last => decide +kernel
    | pass hpath => exact absurd hpath (by decide +kernel)
    | enter hpath _ hpart next =>
      obtain rfl := List.mem_singleton.mp hpart
      rw [nesting_cons_of_path hpath]
      exact haddress next
  have hdeep : ¬ DeepTrail registry.slots registry.types := by
    rintro ⟨root, hroot, rest, htrail, hdeep⟩
    have hroot : root ∈ [user, user, address, address] := hroot
    have hle : nesting (root :: rest) ≤ 1 := by
      simp only [List.mem_cons, List.not_mem_nil, or_false] at hroot
      rcases hroot with rfl | rfl | rfl | rfl
      · exact huser htrail
      · exact huser htrail
      · exact haddress htrail
      · exact haddress htrail
    exact absurd (Nat.lt_of_lt_of_le hdeep hle) (by decide)
  have hshown : (ofRegistry registry).toOption.map (fun _ => ()) = some () := by
    decide +kernel
  obtain ⟨client, hclient, -⟩ := exists_client hshown
  obtain ⟨client', hclient'⟩ :=
    (exists_client_perm hperm hconsistent fun h => absurd h hdeep).mp ⟨client, hclient⟩
  exact ⟨hperm, hconsistent, hdeep, client, client', hclient, hclient'⟩

/-- A descriptor inside so many composites that are written out. -/
def boxed (inner : Descriptor) : Nat → Descriptor
  | 0 => inner
  | depth + 1 => .inline (.listed [.plain "f" (boxed inner depth)])

/-- A name with 17 composites below it that are written out, and another one 16 of them above that. The two succeed
when the inner one comes first, since its name is then known, and fail when the outer one does, although nothing
contains itself. -/
theorem exists_client_order_boxed :
    let b : Descriptor := .named "n::B" (.listed [.plain "f" (boxed .string 17)])
    let a : Descriptor := .named "n::A" (.listed [.plain "f" (boxed b 16)])
    let inner : RouteIdentity := ⟨"n", "inner", by decide, by decide⟩
    let outer : RouteIdentity := ⟨"n", "outer", by decide, by decide⟩
    let entry := fun identity type =>
      (identity.key, (Registry.empty .root []).record identity ⟨type, type⟩)
    let registry : Registry := ⟨.root, [], [entry inner b, entry outer a]⟩
    let handlers := [entry outer a, entry inner b]
    registry.handlers.Perm handlers ∧ Consistent registry.slots registry.types ∧
    (∃ client, ofRegistry registry = .ok client) ∧
    ofRegistry { registry with handlers } = .error .nestedTooDeep := by
  intro b a inner outer entry registry handlers
  have hnodes (d : Descriptor) (hd : ReachedFrom registry.slots registry.types d) :
      d = a ∨ (∃ k, d = boxed b k) ∨ ∃ k, d = boxed .string k := by
    refine hd.mem_of_closed (S := fun d => d = a ∨ (∃ k, d = boxed b k) ∨ ∃ k, d = boxed .string k)
      (fun root hroot => ?_) (fun d hd part hpart => ?_)
    · have hroot : root ∈ [b, b, a, a] := hroot
      simp only [List.mem_cons, List.not_mem_nil, or_false] at hroot
      rcases hroot with rfl | rfl | rfl | rfl
      · exact .inr (.inl ⟨0, rfl⟩)
      · exact .inr (.inl ⟨0, rfl⟩)
      · exact .inl rfl
      · exact .inl rfl
    · rcases hd with rfl | ⟨_ | k, rfl⟩ | ⟨_ | k, rfl⟩
      · exact .inr (.inl ⟨16, List.mem_singleton.mp hpart⟩)
      · exact .inr (.inr ⟨17, List.mem_singleton.mp hpart⟩)
      · exact .inr (.inl ⟨k, List.mem_singleton.mp hpart⟩)
      · exact absurd hpart List.not_mem_nil
      · exact .inr (.inr ⟨k, List.mem_singleton.mp hpart⟩)
  have hnamed (d : Descriptor) (hd : NamedFrom registry.slots registry.types d) : d = a ∨ d = b := by
    rcases hnodes d hd.2 with rfl | ⟨_ | k, rfl⟩ | ⟨_ | k, rfl⟩
    · exact .inl rfl
    · exact .inr rfl
    · exact absurd rfl hd.1
    · exact absurd rfl hd.1
    · exact absurd rfl hd.1
  have hkeys : a.key ≠ b.key := by
    decide +kernel
  have hconsistent : Consistent registry.slots registry.types := by
    intro d e hd he hkey
    rcases hnamed d hd with rfl | rfl <;> rcases hnamed e he with rfl | rfl
    · rfl
    · exact absurd hkey hkeys
    · exact absurd hkey.symm hkeys
    · rfl
  have hshown : (ofRegistry registry).toOption.map (fun _ => ()) = some () := by
    decide +kernel
  have hfails : (ofRegistry { registry with handlers }).toOption.isNone = true := by
    decide +kernel
  obtain ⟨client, hclient, -⟩ := exists_client hshown
  refine ⟨.swap .., hconsistent, ⟨client, hclient⟩, ?_⟩
  cases hrun : ofRegistry { registry with handlers } with
  | ok client => simp [hrun, Except.toOption] at hfails
  | error e => rw [(ofRegistry_error hrun).1]

end Client

end TypedRpc
