import TypedRpc.Proofs.Compiler.Erasure
import TypedRpc.Proofs.Compiler.Names
import TypedRpc.Proofs.TypeScript.Unambiguous

/-!
# Tokens tell shapes apart

Main statement: descriptors that one compiler answers with the same text have the same shape, and composites that it
defines with the same text have fields of the same shapes, whatever the compiler does in between.
-/

namespace TypedRpc

open TypedRpc.Text TypedRpc.TypeScript

/-! ## Plain names -/

/-- Composites that are reached have qualified names of several segments, made of letters, digits, `_` and `$`. -/
def Descriptor.Plain (table : SlotTable) (roots : List Descriptor) : Prop :=
  ∀ d, NamedFrom table roots d → 2 ≤ d.path.length ∧ ∀ segment ∈ d.path, IsWord segment.toList

namespace TypeScript

theorem isWord_append {word word' : List Char} (h : IsWord word) (h' : IsWord word') : IsWord (word ++ word') :=
  List.forall_mem_append.mpr ⟨h, h'⟩

theorem isWord_join {parts : List String} (h : ∀ part ∈ parts, IsWord part.toList) :
    IsWord (join "_" parts).toList := by
  intro c hc
  rcases mem_join hc with hseparator | ⟨part, hpart, hc⟩
  · obtain rfl := List.mem_singleton.mp hseparator
    decide
  · exact h part hpart c hc

theorem isWord_scopedName {segments : List String} {extra : Nat} {name : String}
    (h : ∀ segment ∈ segments, IsWord segment.toList) (hname : scopedName? segments extra = some name) :
    IsWord name.toList := by
  unfold scopedName? at hname
  split at hname
  · cases hname
  · split at hname
    · obtain rfl := Option.some.inj hname
      exact h _ List.mem_cons_self
    · cases hname
  · split at hname
    · obtain rfl := Option.some.inj hname
      exact isWord_join fun part hpart => h part (List.mem_of_mem_drop hpart)
    · cases hname

end TypeScript

namespace Compiler

theorem isWord_numberedName {segments : List String} (h : ∀ segment ∈ segments, IsWord segment.toList) (i : Nat) :
    IsWord (numberedName segments i).toList := by
  have hdigits : IsWord (toString (i + 2)).toList := by
    intro c hc
    have hdigit : c.isDigit = true := Nat.isDigit_of_mem_toDigits (by decide) (by decide) (Nat.toList_repr ▸ hc)
    simp [isIdentifierPart, Char.isAlphanum, hdigit]
  rw [numberedName, String.toList_append, String.toList_append]
  exact isWord_append (isWord_append (isWord_join h) (by decide)) hdigits

/-- A name that was made of a plain path cannot be taken for a keyword. -/
theorem isTypeName_freshName (c : Compiler) {segments : List String} (htwo : 2 ≤ segments.length)
    (h : ∀ segment ∈ segments, IsWord segment.toList) : IsTypeName (c.freshName segments) := by
  refine ⟨?_, underscore_mem_freshName c htwo⟩
  rcases freshName_cases c segments with ⟨extra, hscoped, -⟩ | ⟨-, i, -, hname, -⟩
  · exact isWord_scopedName h hscoped
  · rw [hname]
    exact isWord_numberedName h i

theorem path_eq_of_key_eq {d e : Descriptor} (hd : ColonFree d.path) (hpath : d.path ≠ []) (hpath' : e.path ≠ [])
    (h : d.key = e.key) : d.path = e.path := by
  cases d with
  | named name _ =>
    cases e with
    | named name' _ => exact (keyOf_inj hd).mp h
    | _ => exact absurd rfl hpath'
  | _ => exact absurd rfl hpath

theorem colonFree_of_words {path : List String} (h : ∀ segment ∈ path, IsWord segment.toList) : ColonFree path := by
  intro segment hsegment hcolon
  have := h segment hsegment ':' hcolon
  revert this
  decide

/-- Where the composites that are reached have plain paths, their names cannot be taken for keywords, whoever was the
first to ask for them. -/
theorem isTypeName_of_reached {table : SlotTable} {roots all : List Descriptor} {c : Compiler}
    (hplain : Descriptor.Plain table roots) (hmade : MadeFrom table all c) {names : List String}
    (hnames : NamesReached table roots c.naming names) : ∀ name ∈ names, IsTypeName name := by
  intro name hname
  obtain ⟨d, hd, hlookup⟩ := hnames name hname
  obtain ⟨htwo, hwords⟩ := hplain d hd
  obtain ⟨e, a, he, hkey, rfl⟩ := hmade d.key name hlookup
  rw [← path_eq_of_key_eq (colonFree_of_words hwords) hd.1 he.1 hkey.symm]
  exact isTypeName_freshName a htwo hwords

/-! ## Answers of a session -/

/-- A token was answered by a compiler that the session went on with. -/
theorem session_token {table : SlotTable} {calls : List Call} {c : Compiler} {d : Descriptor} {t : TypeExpr}
    (h : (Call.compile d, Answer.token t) ∈ calls.zip (session table calls c).1) :
    ∃ before after : Compiler, before.compile table d = (.ok t, after) ∧ Grows after (session table calls c).2 := by
  induction calls generalizing c with
  | nil => cases h
  | cons call rest ih =>
    rw [session, List.zip_cons_cons] at h
    rcases List.mem_cons.mp h with hfirst | hrest
    · obtain ⟨rfl, hanswer⟩ := Prod.mk.inj hfirst
      refine ⟨c, ((Call.compile d).run table c).2, ?_, Grows.law.session table rest _⟩
      rw [Call.run] at hanswer ⊢
      split at hanswer <;> rename_i hrun
      · cases hanswer
        rw [hrun]
      · cases hanswer
    · exact ih hrest

/-- The definition was written for this composite: it has its name and its fields. -/
structure WrittenFor (table : SlotTable) (c : Compiler) (d : Descriptor) (definition : Definition) : Prop where
  named : c.naming d.key = some definition.name
  rendered : renderDefinition table c.naming definition.name (d.fields table) = some definition

/-- **Texts of types are unambiguous.** Take any session, whose calls may fail. Two descriptors that were answered with
the same text have the same shape, if the composites that they reach have plain names. Each definition was written for
a composite that the calls reach, and two definitions with the same text behind their names were written for fields of
the same shapes, if the composites that those reach have plain names. -/
theorem session_unambiguous (table : SlotTable) (calls : List Call) :
    let answers := (session table calls .empty).1
    let c := (session table calls .empty).2
    (∀ d d' t t', (Call.compile d, Answer.token t) ∈ calls.zip answers →
      (Call.compile d', Answer.token t') ∈ calls.zip answers → Descriptor.Plain table [d, d'] → t.print = t'.print →
        ∃ shape, d.shape? table = some shape ∧ d'.shape? table = some shape) ∧
    (∀ definition ∈ c.definitions,
      ∃ d, Descriptor.NamedFrom table (calls.map Call.type) d ∧ WrittenFor table c d definition) ∧
    ∀ definition ∈ c.definitions, ∀ definition' ∈ c.definitions, ∀ d d', WrittenFor table c d definition →
      WrittenFor table c d' definition' → Descriptor.Plain table [d, d'] → ∀ body : String,
        definition.print = "type " ++ definition.name ++ " = " ++ body →
        definition'.print = "type " ++ definition'.name ++ " = " ++ body →
          ∃ shapes, Field.shapes? table (d.fields table) = some shapes ∧
            Field.shapes? table (d'.fields table) = some shapes := by
  intro answers c
  have hc : c.Coherent := session_coherent table calls
  have haccounted : Accounted table (calls.map Call.type) c := session_accounted table calls
  refine ⟨?_, ?_, ?_⟩
  · intro d d' t t' hanswer hanswer' hplain hprint
    have hrendered {e : Descriptor} {u : TypeExpr} (h : (Call.compile e, Answer.token u) ∈ calls.zip answers) :
        renderType table c.naming e = some u := by
      obtain ⟨before, after, hrun, hgrows⟩ := session_token h
      have hext := (extendedBy_naming c).of_grows hgrows
      exact (List.forall₂_cons.mp ((compile_ok hrun).rendered hext (Nat.le_add_left _ _))).1
    have htypeName {e : Descriptor} {u : TypeExpr} (he : e ∈ [d, d']) (h : renderType table c.naming e = some u) :
        ∀ name ∈ u.references, IsTypeName name :=
      isTypeName_of_reached hplain haccounted.names
        (renderWith_references (renderSlot_references inlineLimit) e u (Descriptor.reachedFrom_self e he) h)
    have hd := hrendered hanswer
    have hd' := hrendered hanswer'
    obtain rfl := TypeExpr.print_inj (htypeName (by simp) hd) (htypeName (by simp) hd') hprint
    exact ⟨_, shape_of_rendered hc hd, shape_of_rendered hc hd'⟩
  · intro definition hdefinition
    obtain ⟨d, hd, hname, hrendered⟩ := haccounted.definitions definition hdefinition
    exact ⟨d, hd, hname, hrendered c.naming (extendedBy_naming c)⟩
  · intro definition _ definition' _ d d' hwritten hwritten' hplain body hprint hprint'
    have htypeName {e : Descriptor} {written : Definition} (he : e ∈ [d, d']) (h : WrittenFor table c e written) :
        ∀ name ∈ written.references, IsTypeName name := by
      refine isTypeName_of_reached hplain haccounted.names ?_
      obtain ⟨members, hmembers, heq⟩ := Option.map_eq_some_iff.mp h.rendered
      rw [← heq]
      exact renderMembers_references (renderSlot_references inlineLimit) _ members
        (Descriptor.reachedFrom_self e he).fields hmembers
    have hmembers := Definition.body_inj (htypeName (by simp) hwritten) (htypeName (by simp) hwritten') hprint hprint'
    refine ⟨_, shapes_of_rendered hc hwritten.rendered, ?_⟩
    rw [hmembers]
    exact shapes_of_rendered hc hwritten'.rendered

/-- Two spellings of one type behind different layers, and between them a call that fails: the compiler answers both
with one text, and they have one shape. -/
theorem session_unambiguous_user :
    let table : SlotTable := [("loop", [.plain "next" (.inline (.deferred "loop"))])]
    let d : Descriptor := .optional (.named "a::User" (.listed []))
    let d' : Descriptor := .wrapper (.named "a.User" (.listed []))
    let calls := [Call.compile d, .compile (.inline (.deferred "loop")), .compile d']
    let answers := (session table calls .empty).1
    Descriptor.Plain table [d, d'] ∧
    answers.map (fun answer => match answer with | .token t => some t.print | _ => none) =
      [some "a_User", none, some "a_User"] ∧
    ∃ shape, d.shape? table = some shape ∧ d'.shape? table = some shape := by
  intro table d d' calls answers
  have hplain : Descriptor.Plain table [d, d'] := by
    rintro e ⟨hpath, hreached⟩
    have hnodes : e ∈ [d, d', .named "a::User" (.listed []), .named "a.User" (.listed [])] := by
      refine hreached.mem_of_closed (S := (· ∈ [d, d', .named "a::User" (.listed []), .named "a.User" (.listed [])]))
        (fun root hroot => List.mem_append_left _ hroot) (fun whole hwhole part hpart => ?_)
      simp only [List.mem_cons, List.not_mem_nil, or_false] at hwhole
      rcases hwhole with rfl | rfl | rfl | rfl
      · obtain rfl := List.mem_singleton.mp hpart
        simp
      · obtain rfl := List.mem_singleton.mp hpart
        simp
      · exact absurd hpart List.not_mem_nil
      · exact absurd hpart List.not_mem_nil
    simp only [List.mem_cons, List.not_mem_nil, or_false] at hnodes
    rcases hnodes with rfl | rfl | rfl | rfl
    · exact absurd rfl hpath
    · exact absurd rfl hpath
    · decide +kernel
    · decide +kernel
  have hshown : answers.map (fun answer => match answer with | .token t => some t.print | _ => none) =
      [some "a_User", none, some "a_User"] := by
    decide +kernel
  refine ⟨hplain, hshown, ?_⟩
  have hunambiguous := (session_unambiguous table calls).1 d d'
  change ∀ t t', (Call.compile d, Answer.token t) ∈ calls.zip answers →
    (Call.compile d', Answer.token t') ∈ calls.zip answers → _ at hunambiguous
  generalize answers = answers at hshown hunambiguous
  obtain ⟨first, rest, rfl, hfirst, hrest⟩ := List.map_eq_cons_iff.mp hshown
  obtain ⟨second, rest, rfl, hsecond, hrest⟩ := List.map_eq_cons_iff.mp hrest
  obtain ⟨third, rest, rfl, hthird, hrest⟩ := List.map_eq_cons_iff.mp hrest
  obtain rfl := List.map_eq_nil_iff.mp hrest
  cases first with
  | definition | failure => cases hfirst
  | token t =>
    cases third with
    | definition | failure => cases hthird
    | token t' =>
      have hprint : t.print = t'.print := (Option.some.inj hfirst).trans (Option.some.inj hthird).symm
      exact hunambiguous t t' (by simp [calls]) (by simp [calls]) hplain hprint

end Compiler

end TypedRpc
