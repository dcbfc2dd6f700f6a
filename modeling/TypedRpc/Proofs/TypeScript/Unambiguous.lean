import Mathlib.Data.List.Basic
import TypedRpc.TypeScript.TypeExpr

/-!
# Texts of types are unambiguous

No text is the text of two type expressions, as long as the names of defined types cannot be taken for keywords. A
text is told apart from what follows it when no identifier could go on behind it (`Stops`), so the statements are about
texts that begin alike: what they begin with is the same expression, and the rests are the same. Property names may
hold anything, also what separates and closes members.
-/

namespace TypedRpc.TypeScript

open TypedRpc.Text

/-! ## Words -/

/-- No identifier goes on with this text. -/
def Stops (rest : List Char) : Prop :=
  rest.takeWhile isIdentifierPart = []

theorem stops_nil : Stops [] :=
  rfl

theorem stops_cons {c : Char} {rest : List Char} (h : isIdentifierPart c = false) : Stops (c :: rest) := by
  simp [Stops, h]

/-- All characters can stand in an identifier. -/
def IsWord (word : List Char) : Prop :=
  ∀ c ∈ word, isIdentifierPart c = true

instance (word : List Char) : Decidable (IsWord word) :=
  List.decidableBAll _ word

section

variable {word word' name name' rest rest' : List Char}

theorem word_append_inj (hword : IsWord word) (hword' : IsWord word') (hrest : Stops rest) (hrest' : Stops rest')
    (h : word ++ rest = word' ++ rest') : word = word' ∧ rest = rest' := by
  have htake := congrArg (List.takeWhile isIdentifierPart) h
  rw [List.takeWhile_append_of_pos hword, List.takeWhile_append_of_pos hword', hrest, hrest', List.append_nil,
    List.append_nil] at htake
  subst htake
  exact ⟨rfl, List.append_cancel_left h⟩

theorem word_append_ne_cons (hword : IsWord word) (hne : word ≠ []) {c : Char} (hc : isIdentifierPart c = false) :
    word ++ rest ≠ c :: rest' := by
  obtain ⟨first, word, rfl⟩ := List.exists_cons_of_ne_nil hne
  intro h
  obtain ⟨rfl, -⟩ := List.cons.inj h
  rw [hword first List.mem_cons_self] at hc
  cases hc

/-! ## Property names -/

namespace PropertyName

theorem escapeChar_of_special {c : Char} (h : c = '\\' ∨ c = '\'') : escapeChar c = ['\\', c] := by
  rcases h with rfl | rfl <;> rfl

theorem escapeChar_of_plain {c : Char} (h : ¬ (c = '\\' ∨ c = '\'')) : escapeChar c = [c] := by
  obtain ⟨hbackslash, hquote⟩ := not_or.mp h
  rw [escapeChar, if_neg hbackslash, if_neg hquote]

theorem escapeChar_append_inj {c c' : Char} (h : escapeChar c ++ rest = escapeChar c' ++ rest') :
    c = c' ∧ rest = rest' := by
  by_cases hc : c = '\\' ∨ c = '\'' <;> by_cases hc' : c' = '\\' ∨ c' = '\''
  · simpa [escapeChar_of_special hc, escapeChar_of_special hc'] using h
  · -- only one of the two begins with a backslash
    simp only [escapeChar_of_special hc, escapeChar_of_plain hc', List.cons_append, List.nil_append,
      List.cons.injEq] at h
    exact absurd (.inl h.1.symm) hc'
  · simp only [escapeChar_of_plain hc, escapeChar_of_special hc', List.cons_append, List.nil_append,
      List.cons.injEq] at h
    exact absurd (.inl h.1) hc
  · simpa [escapeChar_of_plain hc, escapeChar_of_plain hc'] using h

theorem escapeChar_append_ne {c : Char} : escapeChar c ++ rest ≠ '\'' :: rest' := by
  by_cases hc : c = '\\' ∨ c = '\''
  · simp [escapeChar_of_special hc]
  · simp only [escapeChar_of_plain hc, List.cons_append, ne_eq, List.cons.injEq, not_and]
    exact fun hquote => absurd (.inr hquote) hc

/-- A quoted name ends at the first quote that is not escaped, whatever the name holds. -/
theorem escaped_append_inj (h : name.flatMap escapeChar ++ '\'' :: rest = name'.flatMap escapeChar ++ '\'' :: rest') :
    name = name' ∧ rest = rest' := by
  induction name generalizing name' with
  | nil =>
    cases name' with
    | nil => exact ⟨rfl, (List.cons.inj h).2⟩
    | cons c' name' =>
      rw [List.flatMap_cons, List.append_assoc] at h
      exact absurd h.symm escapeChar_append_ne
  | cons c name ih =>
    rw [List.flatMap_cons, List.append_assoc] at h
    cases name' with
    | nil => exact absurd h escapeChar_append_ne
    | cons c' name' =>
      rw [List.flatMap_cons, List.append_assoc] at h
      obtain ⟨rfl, hnames⟩ := escapeChar_append_inj h
      obtain ⟨rfl, hrest⟩ := ih hnames
      exact ⟨rfl, hrest⟩

theorem isWord_of_isIdentifier (h : isIdentifier name = true) : IsWord name := by
  cases name with
  | nil => exact nofun
  | cons first name =>
    simp only [isIdentifier, Bool.and_eq_true, List.all_eq_true] at h
    intro c hc
    rcases List.mem_cons.mp hc with rfl | hc
    · have hstart := h.1
      simp only [isIdentifierStart, Bool.or_eq_true] at hstart
      simp only [isIdentifierPart, Char.isAlphanum, Bool.or_eq_true]
      exact hstart.imp_left (Or.imp_left .inl)
    · exact h.2 c hc

theorem ne_nil_of_isIdentifier (h : isIdentifier name = true) : name ≠ [] := by
  rintro rfl
  cases h

theorem spell_append_inj (hrest : Stops rest) (hrest' : Stops rest') (h : spell name ++ rest = spell name' ++ rest') :
    name = name' ∧ rest = rest' := by
  unfold spell at h
  split at h <;> rename_i hname <;> split at h <;> rename_i hname'
  · exact word_append_inj (isWord_of_isIdentifier hname) (isWord_of_isIdentifier hname') hrest hrest' h
  · exact absurd h (word_append_ne_cons (isWord_of_isIdentifier hname) (ne_nil_of_isIdentifier hname) rfl)
  · exact absurd h.symm (word_append_ne_cons (isWord_of_isIdentifier hname') (ne_nil_of_isIdentifier hname') rfl)
  · simp only [List.cons_append, List.append_assoc, List.nil_append, List.cons.injEq, true_and] at h
    exact escaped_append_inj h

end PropertyName

end

/-! ## Types -/

/-- A name that cannot be taken for a keyword. -/
def IsTypeName (name : String) : Prop :=
  IsWord name.toList ∧ '_' ∈ name.toList

/-- The word that a type expression consists of, unless it has brackets. -/
def TypeExpr.word? : TypeExpr → Option String
  | .keyword word => some word.print
  | .reference name => some name
  | _ => none

section

variable {t t' : TypeExpr} {word word' : String} {rest rest' : List Char}

theorem TypeExpr.print_of_word (h : t.word? = some word) : t.print = word := by
  cases t <;> cases h <;> rfl

theorem Keyword.isWord (word : Keyword) : IsWord word.print.toList ∧ word.print.toList ≠ [] ∧
    '_' ∉ word.print.toList := by
  cases word <;> decide

theorem Keyword.print_inj {word word' : Keyword} (h : word.print = word'.print) : word = word' := by
  cases word <;> cases word' <;> first | rfl | exact absurd h (by decide)

theorem TypeExpr.isWord_of_word (ht : ∀ name ∈ t.references, IsTypeName name) (h : t.word? = some word) :
    IsWord word.toList ∧ word.toList ≠ [] := by
  cases t with
  | keyword word =>
    cases h
    exact ⟨word.isWord.1, word.isWord.2.1⟩
  | reference name =>
    cases h
    obtain ⟨hword, hunderscore⟩ := ht _ (List.mem_singleton.mpr rfl)
    exact ⟨hword, List.ne_nil_of_mem hunderscore⟩
  | nullableArray | object => cases h

/-- Keywords and names of defined types are different words. -/
theorem TypeExpr.word_inj (ht : ∀ name ∈ t.references, IsTypeName name) (ht' : ∀ name ∈ t'.references, IsTypeName name)
    (h : t.word? = some word) (h' : t'.word? = some word) : t = t' := by
  have hname {name : String} (hmem : name ∈ (TypeExpr.reference name).references)
      (hnames : ∀ name' ∈ (TypeExpr.reference name).references, IsTypeName name') (k : Keyword) : name ≠ k.print := by
    rintro rfl
    exact k.isWord.2.2 (hnames _ hmem).2
  cases t with
  | keyword k =>
    cases t' with
    | keyword k' => exact congrArg _ (Keyword.print_inj ((Option.some.inj h).trans (Option.some.inj h').symm))
    | reference name =>
      exact absurd ((Option.some.inj h').trans (Option.some.inj h).symm) (hname (List.mem_singleton.mpr rfl) ht' k)
    | nullableArray | object => cases h'
  | reference name =>
    cases t' with
    | keyword k =>
      exact absurd ((Option.some.inj h).trans (Option.some.inj h').symm) (hname (List.mem_singleton.mpr rfl) ht k)
    | reference name' => exact congrArg _ ((Option.some.inj h).trans (Option.some.inj h').symm)
    | nullableArray | object => cases h'
  | nullableArray | object => cases h

/-! ## Members -/

/-- What stands between members and behind the last one can be told apart, and from identifiers. -/
structure Delimits (separator close : List Char) : Prop where
  stops_separator (rest : List Char) : Stops (separator ++ rest)
  stops_close (rest : List Char) : Stops (close ++ rest)
  apart (rest rest' : List Char) : separator ++ rest ≠ close ++ rest'

/-- The text that follows a member: the other members, and what closes the type. -/
def afterMember (separator close : List Char) (rest : List Char) : List Member → List Char
  | [] => close ++ rest
  | member :: members => separator ++ (member.print.toList ++ afterMember separator close rest members)

theorem Delimits.stops {separator close : List Char} (h : Delimits separator close) (members : List Member) :
    Stops (afterMember separator close rest members) := by
  cases members with
  | nil => exact h.stops_close rest
  | cons => exact h.stops_separator _

theorem intercalate_members (separator close : List Char) (rest : List Char) (member : Member)
    (members : List Member) :
    separator.intercalate ((Member.printList (member :: members)).map String.toList) ++ (close ++ rest) =
      member.print.toList ++ afterMember separator close rest members := by
  induction members generalizing member with
  | nil => simp [Member.printList, afterMember]
  | cons next members ih =>
    have hnext := ih next
    simp only [Member.printList, List.map_cons] at hnext ⊢
    rw [List.intercalate_cons_cons, List.append_assoc, List.append_assoc, hnext, afterMember]

theorem delimits_inline : Delimits [';', ' '] [' ', '\x7d'] where
  stops_separator _ := stops_cons rfl
  stops_close _ := stops_cons rfl
  apart _ _ := by simp

theorem delimits_definition : Delimits ['\n', ' ', ' '] ['\n', '\x7d'] where
  stops_separator _ := stops_cons rfl
  stops_close _ := stops_cons rfl
  apart _ _ := by simp

theorem toList_print_object_nil (rest : List Char) :
    (TypeExpr.object []).print.toList ++ rest = '\x7b' :: '\x7d' :: rest := by
  simp [TypeExpr.print, Member.printList, printObject]

theorem toList_print_object_cons (member : Member) (members : List Member) (rest : List Char) :
    (TypeExpr.object (member :: members)).print.toList ++ rest =
      '\x7b' :: ' ' :: (member.print.toList ++ afterMember [';', ' '] [' ', '\x7d'] rest members) := by
  rw [← intercalate_members, TypeExpr.print, printObject, if_neg (by simp [Member.printList]), join]
  simp [String.toList_intercalate]

end

/-! ## Type expressions -/

section

variable {t t' : TypeExpr} {rest rest' : List Char}

/-- What is no word begins with a bracket. -/
theorem TypeExpr.print_of_word_none (h : t.word? = none) :
    ∃ c text, isIdentifierPart c = false ∧ t.print.toList = c :: text := by
  cases t with
  | keyword | reference => cases h
  | nullableArray element => exact ⟨'(', _, rfl, by rw [print, String.toList_append, String.toList_append]; rfl⟩
  | object members =>
    rw [print, printObject]
    split
    · exact ⟨'\x7b', _, rfl, rfl⟩
    · exact ⟨'\x7b', _, rfl, by rw [String.toList_append, String.toList_append]; rfl⟩

theorem TypeExpr.word_append_inj {word : String} (ht : ∀ name ∈ t.references, IsTypeName name)
    (ht' : ∀ name ∈ t'.references, IsTypeName name) (hword : t.word? = some word) (hrest : Stops rest)
    (hrest' : Stops rest') (h : t.print.toList ++ rest = t'.print.toList ++ rest') : t = t' ∧ rest = rest' := by
  obtain ⟨hw, hne⟩ := t.isWord_of_word ht hword
  rw [t.print_of_word hword] at h
  cases hword' : t'.word? with
  | none =>
    obtain ⟨c, text, hc, htext⟩ := t'.print_of_word_none hword'
    rw [htext, List.cons_append] at h
    exact absurd h (word_append_ne_cons hw hne hc)
  | some word' =>
    rw [t'.print_of_word hword'] at h
    obtain ⟨hsame, hrests⟩ := TypeScript.word_append_inj hw (t'.isWord_of_word ht' hword').1 hrest hrest' h
    obtain rfl := String.toList_inj.mp hsame
    exact ⟨t.word_inj ht ht' hword hword', hrests⟩

theorem toList_print_nullableArray (element : TypeExpr) (rest : List Char) :
    (TypeExpr.nullableArray element).print.toList ++ rest =
      '(' :: (element.print.toList ++ '[' :: ("] | null)".toList ++ rest)) := by
  simp [TypeExpr.print]

theorem toList_print_member (name : String) (optional : Bool) (t : TypeExpr) (rest : List Char) :
    (Member.mk name optional t).print.toList ++ rest =
      PropertyName.spell name.toList ++
        ((if optional then ['?'] else []) ++ ':' :: ' ' :: (t.print.toList ++ rest)) := by
  cases optional <;> simp [Member.print, propertyName]

end

mutual

/-- Two texts that begin with the texts of type expressions are the same only if the expressions are. -/
theorem TypeExpr.print_append_inj : ∀ (t t' : TypeExpr), (∀ name ∈ t.references, IsTypeName name) →
    (∀ name ∈ t'.references, IsTypeName name) → ∀ {rest rest' : List Char}, Stops rest → Stops rest' →
      t.print.toList ++ rest = t'.print.toList ++ rest' → t = t' ∧ rest = rest'
  | .keyword k, t', ht, ht', _, _, hrest, hrest', h => TypeExpr.word_append_inj ht ht' rfl hrest hrest' h
  | .reference name, t', ht, ht', _, _, hrest, hrest', h => TypeExpr.word_append_inj ht ht' rfl hrest hrest' h
  | .nullableArray element, t', ht, ht', rest, rest', hrest, hrest', h => by
    cases t' with
    | keyword | reference => exact (TypeExpr.word_append_inj ht' ht rfl hrest' hrest h.symm).imp Eq.symm Eq.symm
    | nullableArray element' =>
      rw [toList_print_nullableArray, toList_print_nullableArray] at h
      obtain ⟨rfl, hclose⟩ := TypeExpr.print_append_inj element element' ht ht' (stops_cons rfl) (stops_cons rfl)
        (List.cons.inj h).2
      exact ⟨rfl, List.append_cancel_left (List.cons.inj hclose).2⟩
    | object members' =>
      rw [toList_print_nullableArray] at h
      cases members' with
      | nil => simp [toList_print_object_nil] at h
      | cons member' members' => simp [toList_print_object_cons] at h
  | .object [], t', ht, ht', rest, rest', hrest, hrest', h => by
    cases t' with
    | keyword | reference => exact (TypeExpr.word_append_inj ht' ht rfl hrest' hrest h.symm).imp Eq.symm Eq.symm
    | nullableArray element' => simp [toList_print_nullableArray, toList_print_object_nil] at h
    | object members' =>
      rw [toList_print_object_nil] at h
      cases members' with
      | nil => exact ⟨rfl, by simpa [toList_print_object_nil] using h⟩
      | cons member' members' => simp [toList_print_object_cons] at h
  | .object (member :: members), t', ht, ht', rest, rest', hrest, hrest', h => by
    cases t' with
    | keyword | reference => exact (TypeExpr.word_append_inj ht' ht rfl hrest' hrest h.symm).imp Eq.symm Eq.symm
    | nullableArray element' => simp [toList_print_nullableArray, toList_print_object_cons] at h
    | object members' =>
      rw [toList_print_object_cons] at h
      cases members' with
      | nil => simp [toList_print_object_nil] at h
      | cons member' members' =>
        rw [toList_print_object_cons] at h
        obtain ⟨hmember, hmembers⟩ := List.forall_mem_append.mp ht
        obtain ⟨hmember', hmembers'⟩ := List.forall_mem_append.mp ht'
        obtain ⟨rfl, hafter⟩ := Member.print_append_inj member member' hmember hmember'
          (delimits_inline.stops members) (delimits_inline.stops members') (List.cons.inj (List.cons.inj h).2).2
        obtain ⟨rfl, hrests⟩ := afterMember_inj delimits_inline members members' hmembers hmembers' hafter
        exact ⟨rfl, hrests⟩

theorem afterMember_inj {separator close : List Char} (hd : Delimits separator close) :
    ∀ (members members' : List Member), (∀ name ∈ Member.referencesList members, IsTypeName name) →
      (∀ name ∈ Member.referencesList members', IsTypeName name) → ∀ {rest rest' : List Char},
        afterMember separator close rest members = afterMember separator close rest' members' →
          members = members' ∧ rest = rest'
  | [], [], _, _, rest, rest', h => ⟨rfl, List.append_cancel_left h⟩
  | [], member' :: members', _, _, rest, rest', h => absurd h.symm (hd.apart _ _)
  | member :: members, [], _, _, rest, rest', h => absurd h (hd.apart _ _)
  | member :: members, member' :: members', ht, ht', rest, rest', h => by
    obtain ⟨hmember, hmembers⟩ := List.forall_mem_append.mp ht
    obtain ⟨hmember', hmembers'⟩ := List.forall_mem_append.mp ht'
    obtain ⟨rfl, hafter⟩ := Member.print_append_inj member member' hmember hmember' (hd.stops members)
      (hd.stops members') (List.append_cancel_left h)
    obtain ⟨rfl, hrest⟩ := afterMember_inj hd members members' hmembers hmembers' hafter
    exact ⟨rfl, hrest⟩

theorem Member.print_append_inj : ∀ (member member' : Member), (∀ name ∈ member.references, IsTypeName name) →
    (∀ name ∈ member'.references, IsTypeName name) → ∀ {rest rest' : List Char}, Stops rest → Stops rest' →
      member.print.toList ++ rest = member'.print.toList ++ rest' → member = member' ∧ rest = rest'
  | .mk name optional t => by
    rintro ⟨name', optional', t'⟩ ht ht' rest rest' hrest hrest' h
    rw [toList_print_member, toList_print_member] at h
    have hstops (optional : Bool) (text : List Char) : Stops ((if optional then ['?'] else []) ++ ':' :: text) := by
      cases optional <;> exact stops_cons rfl
    obtain ⟨hname, hbehind⟩ := PropertyName.spell_append_inj (hstops _ _) (hstops _ _) h
    obtain rfl := String.toList_inj.mp hname
    have htype : optional = optional' ∧ t.print.toList ++ rest = t'.print.toList ++ rest' := by
      cases optional <;> cases optional'
      · exact ⟨rfl, by simpa using hbehind⟩
      · simp at hbehind
      · simp at hbehind
      · exact ⟨rfl, by simpa using hbehind⟩
    obtain ⟨rfl, htype⟩ := htype
    obtain ⟨rfl, hrests⟩ := TypeExpr.print_append_inj t t' ht ht' hrest hrest' htype
    exact ⟨rfl, hrests⟩

end

/-- One text is the text of one type expression. -/
theorem TypeExpr.print_inj {t t' : TypeExpr} (ht : ∀ name ∈ t.references, IsTypeName name)
    (ht' : ∀ name ∈ t'.references, IsTypeName name) (h : t.print = t'.print) : t = t' :=
  (TypeExpr.print_append_inj t t' ht ht' stops_nil stops_nil (by rw [h])).1

/-! ## Definitions -/

/-- The text of a definition behind its name. -/
def definitionBody : List Member → List Char
  | [] => ['\x7b', '\x7d']
  | member :: members => '\x7b' :: '\n' :: ' ' :: ' ' ::
    (member.print.toList ++ afterMember ['\n', ' ', ' '] ['\n', '\x7d'] [] members)

/-- Lines that are indented, with the indentation taken for a part of the line break. -/
theorem intercalate_indented (first : List Char) (lines : List (List Char)) :
    ['\n'].intercalate ((first :: lines).map (' ' :: ' ' :: ·)) =
      ' ' :: ' ' :: ['\n', ' ', ' '].intercalate (first :: lines) := by
  induction lines generalizing first with
  | nil => simp
  | cons next lines ih =>
    have hnext := ih next
    simp only [List.map_cons] at hnext ⊢
    rw [List.intercalate_cons_cons, hnext, List.intercalate_cons_cons]
    simp

theorem toList_print_definition (definition : Definition) :
    definition.print.toList = ("type " ++ definition.name ++ " = ").toList ++ definitionBody definition.members := by
  obtain ⟨name, members⟩ := definition
  cases members with
  | nil => simp [Definition.print, definitionBody]
  | cons member members =>
    have hlines := intercalate_indented member.print.toList ((Member.printList members).map String.toList)
    have hmembers := intercalate_members ['\n', ' ', ' '] ['\n', '\x7d'] [] member members
    simp only [Member.printList, List.map_cons] at hmembers
    rw [Definition.print, if_neg (by simp), join, definitionBody, ← hmembers]
    simpa [String.toList_intercalate, Member.printList, Function.comp_def] using hlines

theorem definitionBody_inj {members members' : List Member}
    (ht : ∀ name ∈ Member.referencesList members, IsTypeName name)
    (ht' : ∀ name ∈ Member.referencesList members', IsTypeName name)
    (h : definitionBody members = definitionBody members') : members = members' := by
  cases members with
  | nil =>
    cases members' with
    | nil => rfl
    | cons member' members' => simp [definitionBody] at h
  | cons member members =>
    cases members' with
    | nil => simp [definitionBody] at h
    | cons member' members' =>
      simp only [definitionBody, List.cons.injEq, true_and] at h
      obtain ⟨hmember, hmembers⟩ := List.forall_mem_append.mp ht
      obtain ⟨hmember', hmembers'⟩ := List.forall_mem_append.mp ht'
      obtain ⟨rfl, hafter⟩ := Member.print_append_inj member member' hmember hmember'
        (delimits_definition.stops members) (delimits_definition.stops members') h
      rw [(afterMember_inj delimits_definition members members' hmembers hmembers' hafter).1]

/-- Definitions with one text behind their names have the same members. -/
theorem Definition.body_inj {definition definition' : Definition} {body : String}
    (ht : ∀ name ∈ definition.references, IsTypeName name) (ht' : ∀ name ∈ definition'.references, IsTypeName name)
    (h : definition.print = "type " ++ definition.name ++ " = " ++ body)
    (h' : definition'.print = "type " ++ definition'.name ++ " = " ++ body) :
    definition.members = definition'.members := by
  have hbody {definition : Definition} (h : definition.print = "type " ++ definition.name ++ " = " ++ body) :
      definitionBody definition.members = body.toList := by
    have htext := toList_print_definition definition
    rw [h, String.toList_append] at htext
    exact (List.append_cancel_left htext).symm
  exact definitionBody_inj ht ht' ((hbody h).trans (hbody h').symm)

end TypedRpc.TypeScript
