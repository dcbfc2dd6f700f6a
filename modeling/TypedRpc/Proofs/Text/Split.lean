import Mathlib.Data.List.Infix
import TypedRpc.Text.Split

/-!
# Cutting a text

Pieces that hold no separator are found again after they have been joined. Pieces between doubled separators may hold
single ones; joined again, they can be taken for pieces without any only if they are the same. Characters that are no
separators can be left out of the pieces instead of the text, unless two separators would meet that did not.
-/

namespace TypedRpc.Text

/-- A character goes to the first piece, whatever pieces follow. -/
theorem consFirst_append (c : Char) {pieces : List (List Char)} (hne : pieces ≠ []) (others : List (List Char)) :
    consFirst c (pieces ++ others) = consFirst c pieces ++ others := by
  cases pieces with
  | nil => exact absurd rfl hne
  | cons piece rest => rfl

/-! ## At single separators -/

theorem splitWhere_eq_singleton {isSeparator : Char → Bool} {piece : List Char}
    (h : ∀ c ∈ piece, isSeparator c = false) : splitWhere isSeparator piece = [piece] := by
  induction piece with
  | nil => rfl
  | cons c rest ih =>
    have hrest : splitWhere isSeparator rest = [rest] := ih fun d hd => h d (by simp [hd])
    simp [splitWhere, h c (by simp), hrest, consFirst]

/-- A piece between separators holds none of them. -/
theorem not_separator_of_mem_splitWhere {isSeparator : Char → Bool} {text piece : List Char}
    (h : piece ∈ splitWhere isSeparator text) : ∀ c ∈ piece, isSeparator c = false := by
  induction text generalizing piece with
  | nil =>
    simp only [splitWhere, List.mem_singleton] at h
    subst h
    simp
  | cons a rest ih =>
    by_cases ha : isSeparator a = true
    · simp only [splitWhere, ha, if_true, List.mem_cons] at h
      rcases h with rfl | h
      · simp
      · exact ih h
    · simp only [splitWhere, ha, Bool.false_eq_true, if_false] at h
      cases hpieces : splitWhere isSeparator rest with
      | nil =>
        simp only [hpieces, consFirst, List.mem_singleton] at h
        subst h
        simpa using ha
      | cons first others =>
        rw [hpieces] at h ih
        simp only [consFirst, List.mem_cons] at h
        rcases h with rfl | h
        · intro c hc
          rcases List.mem_cons.mp hc with rfl | hc
          · simpa using ha
          · exact ih (by simp) c hc
        · exact ih (by simp [h])

/-- Pieces without separators are not cut any further. -/
theorem flatMap_splitWhere {isSeparator : Char → Bool} {pieces : List (List Char)}
    (h : ∀ piece ∈ pieces, ∀ c ∈ piece, isSeparator c = false) :
    pieces.flatMap (splitWhere isSeparator) = pieces := by
  induction pieces with
  | nil => rfl
  | cons piece rest ih =>
    rw [List.flatMap_cons, splitWhere_eq_singleton (h piece (by simp)),
      ih fun p hp => h p (by simp [hp]), List.singleton_append]

theorem splitWhere_ne_nil (isSeparator : Char → Bool) (text : List Char) : splitWhere isSeparator text ≠ [] := by
  cases text with
  | nil => simp [splitWhere]
  | cons c rest =>
    rw [splitWhere]
    split
    · simp
    · cases splitWhere isSeparator rest <;> simp [consFirst]

/-- A separator ends a piece whatever stands on its two sides. -/
theorem splitWhere_append {isSeparator : Char → Bool} {c : Char} (hc : isSeparator c = true)
    (before after : List Char) :
    splitWhere isSeparator (before ++ c :: after) =
      splitWhere isSeparator before ++ splitWhere isSeparator after := by
  induction before with
  | nil => simp [splitWhere, hc]
  | cons a before ih =>
    rw [List.cons_append, splitWhere, splitWhere, ih]
    split
    · rfl
    · exact consFirst_append a (splitWhere_ne_nil isSeparator before) _

/-- Texts that are joined with a separator are cut one by one. -/
theorem splitWhere_intercalate {isSeparator : Char → Bool} {c : Char} (hc : isSeparator c = true)
    {texts : List (List Char)} (hne : texts ≠ []) :
    splitWhere isSeparator ([c].intercalate texts) = texts.flatMap (splitWhere isSeparator) := by
  induction texts with
  | nil => exact absurd rfl hne
  | cons text rest ih =>
    cases rest with
    | nil => simp
    | cons next rest =>
      rw [List.intercalate_cons_cons, List.append_assoc, List.singleton_append, splitWhere_append hc, ih (by simp)]
      rfl

theorem splitFirst_append {c : Char} {before : List Char} (h : c ∉ before) (after : List Char) :
    splitFirst c (before ++ c :: after) = some (before, after) := by
  induction before with
  | nil => simp [splitFirst]
  | cons a before ih =>
    simp only [List.mem_cons, not_or] at h
    rw [List.cons_append, splitFirst, if_neg (Ne.symm h.1), ih h.2]
    rfl

theorem eq_append_of_splitFirst {c : Char} {text before after : List Char}
    (h : splitFirst c text = some (before, after)) : text = before ++ c :: after := by
  induction text generalizing before with
  | nil => cases h
  | cons a rest ih =>
    rw [splitFirst] at h
    split at h
    · rename_i ha
      cases h
      rw [ha, List.nil_append]
    · obtain ⟨⟨before', after'⟩, hrest, hparts⟩ := Option.map_eq_some_iff.mp h
      cases hparts
      rw [ih hrest, List.cons_append]

/-- A piece is a part of the text, and the first one begins it. -/
theorem prefix_of_splitWhere {isSeparator : Char → Bool} {text first : List Char} {others : List (List Char)}
    (h : splitWhere isSeparator text = first :: others) : first <+: text := by
  induction text generalizing first others with
  | nil =>
    cases h
    exact List.prefix_rfl
  | cons a rest ih =>
    rw [splitWhere] at h
    split at h
    · cases h
      exact List.nil_prefix
    · obtain ⟨piece, pieces, hpieces⟩ := List.exists_cons_of_ne_nil (splitWhere_ne_nil isSeparator rest)
      rw [hpieces] at h
      cases h
      exact List.cons_prefix_cons.mpr ⟨rfl, ih hpieces⟩

theorem infix_of_mem_splitWhere {isSeparator : Char → Bool} {text piece : List Char}
    (h : piece ∈ splitWhere isSeparator text) : piece <:+: text := by
  induction text generalizing piece with
  | nil =>
    obtain rfl := List.mem_singleton.mp h
    exact List.infix_rfl
  | cons a rest ih =>
    obtain ⟨first, others, hpieces⟩ := List.exists_cons_of_ne_nil (splitWhere_ne_nil isSeparator (a :: rest))
    rw [hpieces] at h
    rcases List.mem_cons.mp h with rfl | hother
    · exact (prefix_of_splitWhere hpieces).isInfix
    · -- the other pieces are pieces of the rest
      refine List.infix_cons (ih ?_)
      rw [splitWhere] at hpieces
      split at hpieces
      · obtain ⟨-, rfl⟩ := List.cons.inj hpieces
        exact hother
      · obtain ⟨next, pieces, hnext⟩ := List.exists_cons_of_ne_nil (splitWhere_ne_nil isSeparator rest)
        rw [hnext] at hpieces ⊢
        obtain ⟨-, rfl⟩ := List.cons.inj hpieces
        exact List.mem_cons_of_mem _ hother

/-! ## At doubled separators -/

/-- A character goes to the first piece when no pair begins with it. -/
theorem splitPairs_cons {a c : Char} {text : List Char} (h : a = c → text.head? ≠ some c) :
    splitPairs c (a :: text) = consFirst a (splitPairs c text) := by
  cases text with
  | nil => rfl
  | cons b rest => rw [splitPairs, if_neg fun hpair => h hpair.1 (congrArg some hpair.2)]

theorem splitPairs_ne_nil (c : Char) (text : List Char) : splitPairs c text ≠ [] := by
  fun_cases splitPairs c text with
  | case1 | case2 | case3 => simp
  | case4 a b rest =>
    cases splitPairs c (b :: rest) <;> simp [consFirst]

theorem splitPairs_cons_of_ne {b c : Char} (hb : b ≠ c) (rest : List Char) :
    ∃ first others, splitPairs c (b :: rest) = (b :: first) :: others := by
  obtain ⟨first, others, hpieces⟩ := List.exists_cons_of_ne_nil (splitPairs_ne_nil c rest)
  exact ⟨first, others, by rw [splitPairs_cons fun h => absurd h hb, hpieces, consFirst]⟩

/-- A doubled separator ends a piece, unless its first half is taken for the second half of one before it. -/
theorem splitPairs_append {c : Char} {before : List Char} (h : before.getLast? ≠ some c) (after : List Char) :
    splitPairs c (before ++ c :: c :: after) = splitPairs c before ++ splitPairs c after := by
  fun_induction splitPairs c before with
  | case1 => simp [splitPairs]
  | case2 a =>
    have ha : a ≠ c := by simpa using h
    simp [splitPairs, ha, consFirst]
  | case3 a b rest hpair ih =>
    have hrest : rest.getLast? ≠ some c := by
      cases rest with
      | nil => simp
      | cons d rest => simpa using h
    simp [splitPairs, hpair, ih hrest]
  | case4 a b rest hpair ih =>
    have hrest : (b :: rest).getLast? ≠ some c := by simpa using h
    rw [← consFirst_append a (splitPairs_ne_nil c _), ← ih hrest, List.cons_append, List.cons_append, splitPairs,
      if_neg hpair]

/-- A piece between doubled separators holds none of them. -/
theorem not_pair_infix_of_mem_splitPairs {c : Char} {text piece : List Char} (h : piece ∈ splitPairs c text) :
    ¬ [c, c] <:+: piece := by
  fun_induction splitPairs c text generalizing piece with
  | case1 =>
    obtain rfl := List.mem_singleton.mp h
    simp
  | case2 a =>
    obtain rfl := List.mem_singleton.mp h
    simp [List.infix_cons_iff]
  | case3 a b rest hpair ih =>
    rcases List.mem_cons.mp h with rfl | h
    · simp
    · exact ih h
  | case4 a b rest hpair ih =>
    cases hpieces : splitPairs c (b :: rest) with
    | nil =>
      rw [hpieces] at h
      obtain rfl := List.mem_singleton.mp h
      simp [List.infix_cons_iff]
    | cons first others =>
      rw [hpieces] at h ih
      rcases List.mem_cons.mp h with rfl | h
      · intro hinfix
        rcases List.infix_cons_iff.mp hinfix with hprefix | hinfix
        · -- the piece would begin with a doubled separator, which would have been cut
          obtain ⟨rfl, hfirst⟩ := List.cons_prefix_cons.mp hprefix
          have hb : b ≠ c := fun hb => hpair ⟨rfl, hb⟩
          obtain ⟨first', others', hbegin⟩ := splitPairs_cons_of_ne hb rest
          obtain ⟨rfl, -⟩ := List.cons.inj (hpieces.symm.trans hbegin)
          exact hb (List.cons_prefix_cons.mp hfirst).1.symm
        · exact ih List.mem_cons_self hinfix
      · exact ih (List.mem_cons_of_mem _ h)

theorem splitPairs_eq_singleton {c : Char} {piece : List Char} (h : ¬ [c, c] <:+: piece) :
    splitPairs c piece = [piece] := by
  fun_induction splitPairs c piece with
  | case1 | case2 => rfl
  | case3 a b rest hpair =>
    exact absurd ⟨[], rest, by simp [hpair]⟩ h
  | case4 a b rest hpair ih =>
    rw [ih fun hinfix => h (List.infix_cons hinfix), consFirst]

/-- A piece without the separator ends at the first doubled separator, unless a third one follows. -/
theorem eq_of_append_pair_eq {c : Char} {piece other rest rest' : List Char} (hpiece : c ∉ piece)
    (hother : ¬ [c, c] <:+: other) (hrest : rest.head? ≠ some c)
    (h : piece ++ ([c, c] ++ rest) = other ++ ([c, c] ++ rest')) : piece = other := by
  rcases List.append_eq_append_iff.mp h with ⟨tail, rfl, htail⟩ | ⟨tail, rfl, htail⟩
  · match tail, htail with
    | [], _ => simp
    | [d], htail => exact absurd (by simpa using congrArg List.head? (congrArg (List.drop 2) htail)) hrest
    | d :: e :: tail, htail =>
      simp only [List.cons_append, List.cons.injEq] at htail
      obtain ⟨rfl, rfl, -⟩ := htail
      exact absurd ⟨piece, tail, by simp⟩ hother
  · match tail, htail with
    | [], _ => simp
    | d :: tail, htail =>
      obtain ⟨rfl, -⟩ := List.cons.inj htail
      exact absurd (by simp) hpiece

theorem head?_intercalate_pairs {c : Char} {piece : List Char} {pieces : List (List Char)}
    (h : piece ≠ [] ∧ c ∉ piece) : ([c, c].intercalate (piece :: pieces)).head? ≠ some c := by
  obtain ⟨first, piece, rfl⟩ := List.exists_cons_of_ne_nil h.1
  have hfirst : first ≠ c := fun heq => h.2 (heq ▸ List.mem_cons_self)
  cases pieces <;> simpa using hfirst

/-- Pieces without the separator, joined with it doubled, are joined in no other way of pieces that do not hold it
doubled. -/
theorem intercalate_pairs_inj {c : Char} {pieces others : List (List Char)}
    (hpieces : ∀ piece ∈ pieces, piece ≠ [] ∧ c ∉ piece) (hothers : ∀ piece ∈ others, ¬ [c, c] <:+: piece)
    (hne : pieces ≠ []) (hne' : others ≠ []) (h : [c, c].intercalate pieces = [c, c].intercalate others) :
    pieces = others := by
  induction pieces generalizing others with
  | nil => exact absurd rfl hne
  | cons piece rest ih =>
    obtain ⟨other, rest', rfl⟩ := List.exists_cons_of_ne_nil hne'
    obtain ⟨hpiece, hrest⟩ := List.forall_mem_cons.mp hpieces
    obtain ⟨hother, hrest'⟩ := List.forall_mem_cons.mp hothers
    cases rest with
    | nil =>
      cases rest' with
      | nil => simpa using h
      | cons next' rest' =>
        rw [List.intercalate_cons_cons, List.append_assoc] at h
        have hmem : c ∈ [c, c].intercalate [piece] := by
          rw [h]
          simp
        exact absurd (by simpa using hmem) hpiece.2
    | cons next rest =>
      rw [List.intercalate_cons_cons, List.append_assoc] at h
      cases rest' with
      | nil =>
        rw [List.intercalate_singleton] at h
        exact absurd ⟨piece, _, by rw [List.append_assoc]; exact h⟩ hother
      | cons next' rest' =>
        rw [List.intercalate_cons_cons, List.append_assoc] at h
        obtain rfl :=
          eq_of_append_pair_eq hpiece.2 hother (head?_intercalate_pairs (hrest next List.mem_cons_self)) h
        rw [ih hrest hrest' (by simp) (by simp) (by simpa using h)]

/-! ## At doubled and at other separators -/

section

variable {isSeparator : Char → Bool} {c : Char}

/-- A separator in front of the first piece cuts it off, and any other character goes to it. -/
theorem flatMap_splitWhere_consFirst (a : Char) {pieces : List (List Char)} (hne : pieces ≠ []) :
    (consFirst a pieces).flatMap (splitWhere isSeparator) =
      if isSeparator a then [] :: pieces.flatMap (splitWhere isSeparator)
      else consFirst a (pieces.flatMap (splitWhere isSeparator)) := by
  obtain ⟨first, others, rfl⟩ := List.exists_cons_of_ne_nil hne
  rw [consFirst, List.flatMap_cons, List.flatMap_cons, splitWhere]
  split
  · rfl
  · exact (consFirst_append a (splitWhere_ne_nil isSeparator first) _).symm

theorem flatMap_splitWhere_ne_nil {pieces : List (List Char)} (hne : pieces ≠ []) :
    pieces.flatMap (splitWhere isSeparator) ≠ [] := by
  obtain ⟨first, others, rfl⟩ := List.exists_cons_of_ne_nil hne
  simp [splitWhere_ne_nil]

/-- Another separator ends a piece whatever stands on its two sides, as it can be no half of a doubled one. -/
theorem flatMap_splitWhere_splitPairs_append {b : Char} (hb : isSeparator b = true) (hbc : b ≠ c)
    (before after : List Char) :
    (splitPairs c (before ++ b :: after)).flatMap (splitWhere isSeparator) =
      (splitPairs c before).flatMap (splitWhere isSeparator) ++
        (splitPairs c after).flatMap (splitWhere isSeparator) := by
  have hcut : (splitPairs c (b :: after)).flatMap (splitWhere isSeparator) =
      [] :: (splitPairs c after).flatMap (splitWhere isSeparator) := by
    rw [splitPairs_cons fun h => absurd h hbc, flatMap_splitWhere_consFirst b (splitPairs_ne_nil c after), if_pos hb]
  fun_induction splitPairs c before with
  | case1 => exact hcut
  | case2 a =>
    rw [List.singleton_append, splitPairs_cons fun _ => by simpa using hbc,
      flatMap_splitWhere_consFirst a (splitPairs_ne_nil c _), hcut, List.flatMap_singleton, splitWhere]
    split <;> rfl
  | case3 a a' rest hpair ih =>
    rw [List.cons_append, List.cons_append, splitPairs, if_pos hpair, List.flatMap_cons, ih, List.flatMap_cons,
      List.append_assoc]
  | case4 a a' rest hpair ih =>
    have hne := splitPairs_ne_nil c (a' :: rest)
    rw [List.cons_append, List.cons_append, splitPairs, if_neg hpair, flatMap_splitWhere_consFirst a
      (splitPairs_ne_nil c _), flatMap_splitWhere_consFirst a hne, ← List.cons_append, ih]
    split
    · rfl
    · exact consFirst_append a (flatMap_splitWhere_ne_nil hne) _

end

/-! ## Leaving characters out -/

section

variable {keep : Char → Bool}

theorem map_filter_consFirst {pieces : List (List Char)} (hne : pieces ≠ []) (c : Char) :
    (consFirst c pieces).map (List.filter keep) =
      if keep c then consFirst c (pieces.map (List.filter keep)) else pieces.map (List.filter keep) := by
  obtain ⟨first, others, rfl⟩ := List.exists_cons_of_ne_nil hne
  by_cases hc : keep c = true <;> simp [consFirst, hc]

/-- Characters that are no separators can be left out before the text is cut or after. -/
theorem splitWhere_filter {isSeparator : Char → Bool} (hkeep : ∀ c, isSeparator c = true → keep c = true)
    (text : List Char) :
    splitWhere isSeparator (text.filter keep) = (splitWhere isSeparator text).map (List.filter keep) := by
  induction text with
  | nil => rfl
  | cons c rest ih =>
    by_cases hc : isSeparator c = true
    · rw [List.filter_cons_of_pos (hkeep c hc), splitWhere, if_pos hc, ih, splitWhere, if_pos hc, List.map_cons,
        List.filter_nil]
    · rw [splitWhere, if_neg hc, map_filter_consFirst (splitWhere_ne_nil isSeparator rest), ← ih]
      by_cases hk : keep c = true
      · rw [List.filter_cons_of_pos hk, splitWhere, if_neg hc, if_pos hk]
      · rw [List.filter_cons_of_neg hk, if_neg hk]

/-- Two `c` between which nothing is kept stand right behind each other. -/
def PairsMeet (keep : Char → Bool) (c : Char) (text : List Char) : Prop :=
  ∀ rest, c :: rest <:+ text → rest.find? keep = some c → rest.head? = some c

instance (keep : Char → Bool) (c : Char) (text : List Char) : Decidable (PairsMeet keep c text) :=
  decidable_of_iff (∀ suffix ∈ text.tails, suffix.head? = some c → suffix.tail.find? keep = some c →
    suffix.tail.head? = some c) <| by
    simp only [List.mem_tails, PairsMeet]
    constructor
    · intro h rest hsuffix
      exact h (c :: rest) hsuffix rfl
    · intro h suffix hsuffix hhead
      obtain ⟨rest, rfl⟩ := List.head?_eq_some_iff.mp hhead
      exact h rest hsuffix

theorem PairsMeet.tail {a c : Char} {text : List Char} (h : PairsMeet keep c (a :: text)) : PairsMeet keep c text :=
  fun rest hsuffix => h rest (hsuffix.trans (List.suffix_cons a text))

/-- Where no pair of `c` comes about by it, characters other than `c` can be left out before the text is cut at the
pairs or after. -/
theorem splitPairs_filter {c : Char} (hc : keep c = true) {text : List Char} (h : PairsMeet keep c text) :
    splitPairs c (text.filter keep) = (splitPairs c text).map (List.filter keep) := by
  fun_induction splitPairs c text with
  | case1 => rfl
  | case2 a => by_cases ha : keep a = true <;> simp [splitPairs, ha]
  | case3 a b rest hpair ih =>
    obtain ⟨rfl, rfl⟩ := hpair
    rw [List.filter_cons_of_pos hc, List.filter_cons_of_pos hc, splitPairs, if_pos ⟨rfl, rfl⟩, ih h.tail.tail,
      List.map_cons, List.filter_nil]
  | case4 a b rest hpair ih =>
    rw [map_filter_consFirst (splitPairs_ne_nil c _), ← ih h.tail]
    by_cases ha : keep a = true
    · have hhead : a = c → ((b :: rest).filter keep).head? ≠ some c := by
        rintro rfl hfirst
        have hnext := h (b :: rest) List.suffix_rfl (by rwa [← List.head?_filter])
        exact hpair ⟨rfl, Option.some.inj hnext⟩
      rw [List.filter_cons_of_pos ha, splitPairs_cons hhead, if_pos ha]
    · rw [List.filter_cons_of_neg ha, if_neg ha]

end

/-! ## Joined texts -/

/-- Texts that are not empty are joined to one that is not. -/
theorem join_eq_empty {separator : String} {parts : List String} (hparts : ∀ part ∈ parts, part ≠ "") :
    join separator parts = "" ↔ parts = [] := by
  refine ⟨fun h => ?_, fun h => by rw [h]; rfl⟩
  cases parts with
  | nil => rfl
  | cons first rest =>
    have hfirst := hparts first List.mem_cons_self
    have hlist := congrArg String.toList h
    rw [join, String.toList_intercalate] at hlist
    cases rest with
    | nil => exact absurd (String.toList_inj.mp (by simpa using hlist)) hfirst
    | cons next rest =>
      rw [List.map_cons, List.map_cons, List.intercalate_cons_cons, List.append_assoc] at hlist
      exact absurd (String.toList_inj.mp (List.append_eq_nil_iff.mp hlist).1) hfirst

/-- The last texts alone are joined to an end of what all of them are joined to. -/
theorem suffix_join (separator : String) (parts : List String) (count : Nat) :
    (join separator (parts.drop count)).toList <:+ (join separator parts).toList := by
  induction parts generalizing count with
  | nil => rw [List.drop_nil]
  | cons part rest ih =>
    cases count with
    | zero => exact List.suffix_rfl
    | succ count =>
      refine (ih count).trans ?_
      cases rest with
      | nil => exact List.nil_suffix
      | cons next rest =>
        rw [join, join, String.intercalate_cons_cons, String.toList_append]
        exact List.suffix_append _ _

/-- A character of a joined text comes from the separator or from one of the texts. -/
theorem mem_join {separator : String} {parts : List String} {c : Char} (h : c ∈ (join separator parts).toList) :
    c ∈ separator.toList ∨ ∃ part ∈ parts, c ∈ part.toList := by
  rw [join, String.toList_intercalate] at h
  induction parts with
  | nil => exact absurd h (by simp)
  | cons part rest ih =>
    cases rest with
    | nil => exact .inr ⟨part, List.mem_cons_self, by simpa using h⟩
    | cons next rest =>
      rw [List.map_cons, List.map_cons, List.intercalate_cons_cons, List.append_assoc] at h
      rcases List.mem_append.mp h with hpart | h
      · exact .inr ⟨part, List.mem_cons_self, hpart⟩
      · rcases List.mem_append.mp h with hseparator | h
        · exact .inl hseparator
        · exact (ih h).imp_right fun ⟨other, hother, hc⟩ => ⟨other, List.mem_cons_of_mem _ hother, hc⟩

end TypedRpc.Text
