import TypedRpc.Proofs.Compiler.Session
import TypedRpc.Proofs.Descriptor.Walk

/-!
# Compiling is a walk

A compiler that succeeds meets keys as the walk does that knows of no compiler. `Tracks` is the invariant: the
keys that have names are those that were met, in the same order; a key under construction has a name and no
definition; any other key that was met has a definition, rendered from the fields with which it was met first.
Main statement: what a session of successful compilations answers and defines is the rendering under its last
naming.
-/

namespace TypedRpc.Compiler

open TypedRpc.TypeScript

/-- The state of a compiler that has met these keys. -/
structure Tracks (table : SlotTable) (met : Met) (c : Compiler) : Prop where
  coherent : c.Coherent
  keys : c.names.map (·.1) = met.map (·.1)
  pending {key : String} : key ∈ c.processing →
    ∃ name, c.names.lookup key = some name ∧ name ∉ c.definitions.map (·.name)
  settled {key : String} {fields : List Field} : (key, fields) ∈ met → key ∉ c.processing →
    ∃ definition ∈ c.definitions, c.names.lookup key = some definition.name ∧
      ∀ naming, c.ExtendedBy naming → renderDefinition table naming definition.name fields = some definition

namespace Tracks

variable {table : SlotTable} {met : Met} {c c₁ : Compiler} {d : Descriptor} {name : String}

theorem empty (table : SlotTable) : Tracks table [] .empty where
  coherent := .empty
  keys := rfl
  pending h := nomatch h
  settled h := nomatch h

theorem withDepth (h : Tracks table met c) (depth : Nat) : Tracks table met { c with inlineDepth := depth } :=
  ⟨h.coherent.withDepth depth, h.keys, h.pending, h.settled⟩

/-- Nothing new is learned from a composite that is under construction or defined. -/
theorem assignName_known (h : Tracks table met c) (hassign : c.assignName d.path = (name, c₁))
    (hknown : d.key ∈ c₁.processing ∨ name ∈ c₁.definitions.map (·.name)) :
    d.key ∈ met.map (·.1) ∧ c₁ = c := by
  rcases assignName_cases c d.path with ⟨name', hname, heq⟩ | ⟨name', hkey, hfree, -, heq⟩
  · cases hassign.symm.trans heq
    refine ⟨?_, rfl⟩
    rw [← h.keys]
    exact List.mem_map_of_mem (mem_of_lookup hname)
  · -- a fresh name is undefined, and keys under construction have names already
    cases hassign.symm.trans heq
    rcases hknown with hpending | hdefined
    · obtain ⟨_, hnamed, -⟩ := h.pending hpending
      cases hkey.symm.trans hnamed
    · exact absurd hdefined (definition?_eq_none.mp (h.coherent.undefined hfree))

/-- A composite that is neither under construction nor defined has a key that is met for the first time. -/
theorem assignName_fresh (h : Tracks table met c) (hassign : c.assignName d.path = (name, c₁))
    (hkey : d.key ∉ c₁.processing) (hname : name ∉ c₁.definitions.map (·.name)) :
    d.key ∉ met.map (·.1) ∧ c₁ = c.give d.key name := by
  rcases assignName_cases c d.path with ⟨name', hnamed, heq⟩ | ⟨name', hnew, -, -, heq⟩
  · cases hassign.symm.trans heq
    have hmet : d.key ∈ met.map (·.1) := by
      rw [← h.keys]
      exact List.mem_map_of_mem (mem_of_lookup hnamed)
    obtain ⟨⟨_, fields⟩, hentry, rfl⟩ := List.mem_map.mp hmet
    obtain ⟨definition, hd, hlookup, -⟩ := h.settled hentry hkey
    obtain rfl := Option.some.inj (hnamed.symm.trans hlookup)
    exact absurd (List.mem_map_of_mem hd) hname
  · cases hassign.symm.trans heq
    rw [← h.keys]
    exact ⟨lookup_eq_none_iff.mp hnew, rfl⟩

/-- A composite is entered that was not met before. -/
theorem enter (h : Tracks table met c) (hassign : c.assignName d.path = (name, c₁))
    (hkey : d.key ∉ c₁.processing) (hname : name ∉ c₁.definitions.map (·.name)) :
    Tracks table (met ++ [(d.key, d.fields table)]) (c₁.enter d.key) := by
  have hgrows := Grows.of_assignName hassign
  have hlookup := lookup_of_assignName hassign
  have hdefinitions := definitions_of_assignName hassign
  refine ⟨(h.coherent.of_assignName hassign).enter _, ?_, ?_, ?_⟩
  · obtain ⟨-, rfl⟩ := h.assignName_fresh hassign hkey hname
    simp [Compiler.enter, give, h.keys]
  · intro key hpending
    rcases List.mem_cons.mp hpending with rfl | hpending
    · exact ⟨name, hlookup, hname⟩
    · rw [hgrows.processing] at hpending
      obtain ⟨name', hnamed, hundefined⟩ := h.pending hpending
      exact ⟨name', hgrows.lookup_names hnamed, by rwa [← hdefinitions] at hundefined⟩
  · intro key fields hentry hdone
    have hne : key ≠ d.key := fun heq => hdone (heq ▸ List.mem_cons_self)
    have hmet : (key, fields) ∈ met := by
      rcases List.mem_append.mp hentry with hentry | hentry
      · exact hentry
      · cases List.mem_singleton.mp hentry
        exact absurd rfl hne
    have hdone' : key ∉ c.processing := by
      rw [← hgrows.processing]
      exact fun hmem => hdone (List.mem_cons_of_mem _ hmem)
    obtain ⟨definition, hd, hnamed, hrender⟩ := h.settled hmet hdone'
    refine ⟨definition, by rwa [← hdefinitions] at hd, hgrows.lookup_names hnamed, fun naming hext => ?_⟩
    have hext : c₁.ExtendedBy naming := hext
    exact hrender naming (hext.of_grows hgrows)

/-- The fields of a composite have been compiled. -/
theorem complete {processing : List String} {definition : Definition} (h : Tracks table met c)
    (hprocessing : c.processing = d.key :: processing) (hkey : d.key ∉ processing)
    (hname : c.names.lookup d.key = some definition.name) (hmet : (d.key, d.fields table) ∈ met)
    (hrender : ∀ naming, c.ExtendedBy naming →
      renderDefinition table naming definition.name (d.fields table) = some definition) :
    Tracks table met ((c.leave d.key).define definition) := by
  have hnew : definition.name ∉ c.definitions.map (·.name) := by
    obtain ⟨name', hname', hundefined⟩ := h.pending (hprocessing ▸ List.mem_cons_self)
    rwa [Option.some.inj (hname.symm.trans hname')]
  have hleft : (c.leave d.key).processing = processing := by
    simp [leave, hprocessing]
  have hcoherent : ((c.leave d.key).define definition).Coherent := (h.coherent.leave d.key).define hname
  rw [define_of_none (c := c.leave d.key) (definition?_eq_none.mpr hnew)] at hcoherent ⊢
  refine ⟨hcoherent, h.keys, ?_, ?_⟩
  · intro key hpending
    replace hpending : key ∈ processing := hleft ▸ hpending
    obtain ⟨name', hnamed, hundefined⟩ := h.pending (hprocessing ▸ List.mem_cons_of_mem _ hpending)
    refine ⟨name', hnamed, ?_⟩
    -- the new definition belongs to the key that was left, not to one under construction
    have hne : name' ≠ definition.name := by
      rintro rfl
      exact hkey (h.coherent.injective hnamed hname ▸ hpending)
    simp only [leave, List.map_append, List.mem_append, not_or]
    exact ⟨hundefined, by simpa using hne⟩
  · intro key fields hentry hdone
    replace hdone : key ∉ processing := hleft ▸ hdone
    by_cases heq : key = d.key
    · subst heq
      have hkeys : (met.map (·.1)).Nodup := h.keys ▸ h.coherent.keys
      have hfields : fields = d.fields table :=
        Option.some.inj ((lookup_of_mem hkeys hentry).symm.trans (lookup_of_mem hkeys hmet))
      exact ⟨definition, by simp, hname, hfields ▸ hrender⟩
    · have hdone' : key ∉ c.processing := by
        rw [hprocessing]
        exact List.not_mem_cons_of_ne_of_not_mem heq hdone
      obtain ⟨other, hother, hnamed, hrender'⟩ := h.settled hentry hdone'
      exact ⟨other, List.mem_append_left _ hother, hnamed, hrender'⟩

end Tracks

/-! ## A run is a walk -/

/-- A run keeps track, and what it meets is what the walk meets. -/
theorem Compiles.tracks {table : SlotTable} {c c' : Compiler} {ds : List Descriptor} {ts : List TypeExpr}
    (h : Compiles table c ds ts c') {met : Met} (hmet : Tracks table met c) :
    ∃ met', met <+: met' ∧ Tracks table met' c' ∧
      ∀ rest final, Walk table rest met' final → Walk table (ds ++ rest) met final := by
  induction h generalizing met with
  | nil => exact ⟨met, List.prefix_rfl, hmet, fun _ _ hwalk => hwalk⟩
  | keyword hword _ ih =>
    obtain ⟨met', hprefix, htracks, hwalk⟩ := ih hmet
    refine ⟨met', hprefix, htracks, fun rest final hrest => .pass (Descriptor.path_of_keyword hword) ?_⟩
    rw [Descriptor.parts_of_keyword hword]
    exact hwalk rest final hrest
  | sequence _ ih =>
    obtain ⟨met', hprefix, htracks, hwalk⟩ := ih hmet
    exact ⟨met', hprefix, htracks, fun rest final hrest => .pass rfl (hwalk rest final hrest)⟩
  | optional _ ih =>
    obtain ⟨met', hprefix, htracks, hwalk⟩ := ih hmet
    exact ⟨met', hprefix, htracks, fun rest final hrest => .pass rfl (hwalk rest final hrest)⟩
  | wrapper _ ih =>
    obtain ⟨met', hprefix, htracks, hwalk⟩ := ih hmet
    exact ⟨met', hprefix, htracks, fun rest final hrest => .pass rfl (hwalk rest final hrest)⟩
  | inline hcomposite hpath hdepth _ _ ihbody ih =>
    obtain ⟨met₁, hprefix₁, htracks₁, hwalk₁⟩ := ihbody (hmet.withDepth _)
    obtain ⟨met', hprefix, htracks, hwalk⟩ := ih (htracks₁.withDepth _)
    refine ⟨met', hprefix₁.trans hprefix, htracks, fun rest final hrest => .pass hpath ?_⟩
    exact hwalk₁ _ final (hwalk rest final hrest)
  | known hpath hassign hknown _ ih =>
    obtain ⟨hkey, rfl⟩ := hmet.assignName_known hassign hknown
    obtain ⟨met', hprefix, htracks, hwalk⟩ := ih hmet
    exact ⟨met', hprefix, htracks, fun rest final hrest => .known hpath hkey (hwalk rest final hrest)⟩
  | @expand c c₁ c₂ c' d name types _ _ hpath hassign hkey hname body _ ihbody ih =>
    obtain ⟨met₂, hprefix₂, htracks₂, hwalk₂⟩ := ihbody (hmet.enter (d := d) hassign hkey hname)
    have hcomplete : Tracks table met₂
        ((c₂.leave d.key).define ⟨name, Field.members (d.fields table) types⟩) := by
      refine htracks₂.complete body.grows.processing hkey (body.lookup_body hassign) ?_ fun naming hext => ?_
      · exact hprefix₂.subset (by simp)
      · have hbody := body.rendered hext (Nat.le_add_left _ _)
        rw [Descriptor.parts_eq_types (Descriptor.isComposite_of_path hpath)] at hbody
        rw [renderDefinition, renderMembers_of_forall₂ hbody]
        rfl
    obtain ⟨met', hprefix, htracks, hwalk⟩ := ih hcomplete
    refine ⟨met', ((List.prefix_append ..).trans hprefix₂).trans hprefix, htracks, fun rest final hrest => ?_⟩
    have hfresh := (hmet.assignName_fresh hassign hkey hname).1
    -- the walk goes through the parts before it goes on, as the run does
    exact .fresh hpath hfresh (hwalk₂ _ final (hwalk rest final hrest))

/-- A run on a fresh compiler meets what the walk meets. -/
theorem Compiles.exists_walk {table : SlotTable} {c : Compiler} {ds : List Descriptor} {ts : List TypeExpr}
    (h : Compiles table .empty ds ts c) : ∃ met, Tracks table met c ∧ Walk table ds [] met := by
  obtain ⟨met, -, htracks, hwalk⟩ := h.tracks (.empty table)
  exact ⟨met, htracks, by simpa using hwalk [] met .done⟩

/-! ## Sessions of successful compilations -/

namespace Tracks

variable {table : SlotTable} {met : Met} {c : Compiler}

/-- Once nothing is under construction, each key that was met has a definition. -/
theorem exists_definition (h : Tracks table met c) (hdone : c.processing = []) {key : String}
    (hkey : key ∈ met.map (·.1)) : ∃ definition ∈ c.definitions, c.naming key = some definition.name := by
  obtain ⟨⟨_, fields⟩, hentry, rfl⟩ := List.mem_map.mp hkey
  obtain ⟨definition, hd, hname, -⟩ := h.settled hentry (by simp [hdone])
  exact ⟨definition, hd, hname⟩

/-- Once nothing is under construction, the definitions are the renderings of what was met, under every naming that
extends that of the compiler. -/
theorem mem_definitions_iff_of_extendedBy (h : Tracks table met c) (hdone : c.processing = []) {naming : Naming}
    (hext : c.ExtendedBy naming) {definition : Definition} :
    definition ∈ c.definitions ↔
      ∃ key fields, (key, fields) ∈ met ∧ naming key = some definition.name ∧
        renderDefinition table naming definition.name fields = some definition := by
  constructor
  · intro hd
    obtain ⟨key, howner⟩ := h.coherent.owned hd
    have hname := h.coherent.inverse.mpr howner
    have hmet : key ∈ met.map (·.1) := by
      rw [← h.keys]
      exact List.mem_map_of_mem (mem_of_lookup hname)
    obtain ⟨⟨_, fields⟩, hentry, rfl⟩ := List.mem_map.mp hmet
    obtain ⟨other, hother, hname', hrender⟩ := h.settled hentry (by simp [hdone])
    have heq : other = definition :=
      List.inj_on_of_nodup_map h.coherent.unique hother hd (Option.some.inj (hname'.symm.trans hname))
    subst heq
    exact ⟨_, fields, hentry, hext _ _ hname, hrender _ hext⟩
  · rintro ⟨key, fields, hentry, hname, hrender⟩
    obtain ⟨other, hother, hname', hrender'⟩ := h.settled hentry (by simp [hdone])
    have hother' := hrender' _ hext
    rw [← Option.some.inj (hname.symm.trans (hext _ _ hname')), hrender] at hother'
    rwa [Option.some.inj hother']

/-- Once nothing is under construction, the definitions are the renderings of what was met. -/
theorem mem_definitions_iff (h : Tracks table met c) (hdone : c.processing = []) {definition : Definition} :
    definition ∈ c.definitions ↔
      ∃ key fields, (key, fields) ∈ met ∧ c.naming key = some definition.name ∧
        renderDefinition table c.naming definition.name fields = some definition :=
  h.mem_definitions_iff_of_extendedBy hdone (extendedBy_naming c)

end Tracks

/-- **The compiler refines the renderer.** When all calls of a session on a fresh compiler are successful, each
answer is the rendering of its descriptor under the last naming, and each definition is the rendering of the
fields with which the walk met its key first. Every key that the walk meets is defined in the end, and what was
defined after some of the calls is still defined after the others. -/
theorem session_rendered {table : SlotTable} {ds : List Descriptor} {ts : List TypeExpr} {c : Compiler}
    (h : session table (ds.map .compile) .empty = (ts.map .token, c)) :
    List.Forall₂ (fun d t => renderType table c.naming d = some t) ds ts ∧
    (∃ met, (∀ final, Walk table ds [] final ↔ final = met) ∧
      (∀ definition ∈ c.definitions, ∃ key fields, met.lookup key = some fields ∧
        c.naming key = some definition.name ∧
        renderDefinition table c.naming definition.name fields = some definition) ∧
      ∀ key ∈ met.map (·.1), ∃ definition ∈ c.definitions, c.naming key = some definition.name) ∧
    ∀ earlier later, ds = earlier ++ later →
      (session table (earlier.map .compile) .empty).2.definitions <+: c.definitions := by
  have hrun := session_ok h
  refine ⟨hrun.rendered (extendedBy_naming c) (Nat.le_add_left _ _), ?_, ?_⟩
  · obtain ⟨met, htracks, hwalk⟩ := hrun.exists_walk
    have hkeys : (met.map (·.1)).Nodup := htracks.keys ▸ htracks.coherent.keys
    -- there is one walk only, so meeting a key first does not depend on the compiler
    refine ⟨met, fun final => ⟨fun hfinal => hwalk.unique hfinal, fun heq => heq ▸ hwalk⟩, ?_, ?_⟩
    · intro definition hd
      obtain ⟨key, fields, hentry, hname, hrender⟩ := (htracks.mem_definitions_iff hrun.grows.processing).mp hd
      exact ⟨key, fields, lookup_of_mem hkeys hentry, hname, hrender⟩
    · intro key hkey
      exact htracks.exists_definition hrun.grows.processing hkey
  · rintro earlier later rfl
    have hlast : c =
        (session table (later.map .compile) (session table (earlier.map .compile) .empty).2).2 := by
      rw [← session_append_state, ← List.map_append, h]
    rw [hlast]
    exact (Grows.law.session table (later.map .compile) _).definitions

/-- Two types that contain each other, the inner one of which is complete first. -/
theorem session_rendered_left_right :
    let table : SlotTable :=
      [("left", [.plain "right" (.named "x::Right" (.deferred "right"))]),
       ("right", [.plain "left" (.named "x::Left" (.deferred "left"))])]
    let left : Descriptor := .named "x::Left" (.deferred "left")
    ∃ t c, session table ([left].map .compile) .empty = ([t].map .token, c) ∧
      t.print = "x_Left" ∧ c.definitions.map (·.name) = ["x_Right", "x_Left"] ∧
      List.Forall₂ (fun d t => renderType table c.naming d = some t) [left] [t] ∧
      ∃ met, (∀ final, Walk table [left] [] final ↔ final = met) ∧
        ∀ key ∈ met.map (·.1), ∃ definition ∈ c.definitions, c.naming key = some definition.name := by
  intro table left
  have hshown : (Compiler.empty.compile table left).map (·.toOption.map TypeExpr.print)
      (·.definitions.map (·.name)) = (some "x_Left", ["x_Right", "x_Left"]) := by
    decide +kernel
  generalize hcompile : Compiler.empty.compile table left = outcome at hshown
  obtain ⟨outcome, c⟩ := outcome
  obtain ⟨htoken, hnames⟩ := Prod.mk.inj hshown
  cases outcome with
  | error e => cases htoken
  | ok t =>
    have hrun : session table ([left].map .compile) .empty = ([t].map .token, c) := by
      simp only [List.map_cons, List.map_nil, session, Call.run, hcompile]
    obtain ⟨hrendered, ⟨met, hwalk, -, hdefined⟩, -⟩ := session_rendered hrun
    exact ⟨t, c, hrun, Option.some.inj htoken, hnames, hrendered, met, hwalk, hdefined⟩

end TypedRpc.Compiler
