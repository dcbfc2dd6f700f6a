import TypedRpc.Proofs.Route.Identity

/-!
# Resolving paths

How paths are cut into segments (`CutsPaths`) and where the segments of an item path lead from a module path (`LeadsTo`)
determine the absolute path. The segments hold no character that a part of an identity may not hold, and going along
them only drops and appends segments. So what is resolved is valid without being checked: resolving fails only where no
module comes before the name. Main statement: `resolve_spec`.
-/

namespace TypedRpc.RouteIdentity

open TypedRpc.Text

/-! ## The segments of a path -/

/-- Clean segments can be joined with underscores. -/
theorem isSegment_join {segments : List (List Char)} (hne : segments ≠ []) (h : ∀ s ∈ segments, IsClean s) :
    isSegment (join "_" (segments.map String.ofList)) = true := by
  refine isSegment_iff.mpr ⟨?_, fun c hc => ?_⟩
  · have hparts : ∀ part ∈ segments.map String.ofList, part ≠ "" := by
      intro part hpart
      obtain ⟨s, hs, rfl⟩ := List.mem_map.mp hpart
      simpa using (h s hs).1
    have hjoin : join "_" (segments.map String.ofList) ≠ "" :=
      mt (join_eq_empty hparts).mp (by simpa using hne)
    simpa using hjoin
  · rcases mem_join hc with hseparator | ⟨part, hpart, hc⟩
    · obtain rfl := List.mem_singleton.mp hseparator
      decide
    · obtain ⟨s, hs, rfl⟩ := List.mem_map.mp hpart
      exact (h s hs).2 c (by simpa using hc)

/-- What stands between the separators of a path, as it is written. -/
def pieces (path : String) : List (List Char) :=
  (splitPairs ':' path.toList).flatMap (splitWhere fun c => c == '.' || c == '/')

/-- The segment that a piece becomes, if it becomes one. -/
def segment? (piece : List Char) : Option (List Char) :=
  if isMarker piece then none else (some (piece.filter fun c => !isDropped c)).filter fun segment => !segment.isEmpty

theorem pathSegments_eq (path : String) : pathSegments path = (pieces path).filterMap segment? := by
  rw [pathSegments, List.filter_filterMap]
  refine List.filterMap_congr fun piece _ => ?_
  rw [segment?]
  split <;> rfl

theorem isMarker_iff {piece : List Char} : isMarker piece = true ↔ ['\x7b', '\x7b'] <+: piece := by
  rw [isMarker, beq_iff_eq, List.prefix_iff_eq_take]
  exact eq_comm

theorem isClean_of_mem_pathSegments {path : String} {segment : List Char} (h : segment ∈ pathSegments path) :
    IsClean segment := by
  simp only [pathSegments, List.mem_filter, List.mem_filterMap, List.mem_flatMap] at h
  obtain ⟨⟨piece, ⟨part, _, hpiece⟩, hsegment⟩, hne⟩ := h
  split at hsegment
  · cases hsegment
  · obtain rfl := Option.some.inj hsegment
    refine ⟨by simpa using hne, fun c hc => ?_⟩
    obtain ⟨hmem, hkept⟩ := List.mem_filter.mp hc
    have hseparator := not_separator_of_mem_splitWhere hpiece c hmem
    simp only [isDropped, Bool.not_eq_true', Bool.or_eq_false_iff] at hkept
    simp only [isSegmentBreak, Bool.or_eq_false_iff]
    exact ⟨by simpa using hseparator, hkept.2⟩

/-- Two paths with a pair of colons between them are read one after the other. -/
theorem pathSegments_append {before : String} (h : before.toList.getLast? ≠ some ':') (after : String) :
    pathSegments (before ++ "::" ++ after) = pathSegments before ++ pathSegments after := by
  have hpath : (before ++ "::" ++ after).toList = before.toList ++ ':' :: ':' :: after.toList := by simp
  simp only [pathSegments_eq, pieces, hpath, splitPairs_append h, List.flatMap_append, List.filterMap_append]

/-- So are two paths with a dot or a slash between them. -/
theorem pathSegments_append_separator {separator : String} {c : Char} (htext : separator.toList = [c])
    (h : c = '.' ∨ c = '/') (before after : String) :
    pathSegments (before ++ separator ++ after) = pathSegments before ++ pathSegments after := by
  have hpath : (before ++ separator ++ after).toList = before.toList ++ c :: after.toList := by simp [htext]
  have hseparator : (c == '.' || c == '/') = true := by simpa using h
  have hcolon : c ≠ ':' := by
    rcases h with rfl | rfl <;> decide
  simp only [pathSegments_eq, pieces, hpath, List.filterMap_append,
    @flatMap_splitWhere_splitPairs_append (fun c => c == '.' || c == '/') ':' c hseparator hcolon]

/-- The path holds nothing at which paths are cut. -/
def IsPiece (path : String) : Prop :=
  ¬ [':', ':'] <:+: path.toList ∧ '.' ∉ path.toList ∧ '/' ∉ path.toList

theorem pieces_of_isPiece {path : String} (h : IsPiece path) : pieces path = [path.toList] := by
  obtain ⟨hpair, hdot, hslash⟩ := h
  have hsingle : ∀ c ∈ path.toList, (c == '.' || c == '/') = false := by
    intro c hc
    simp only [Bool.or_eq_false_iff, beq_eq_false_iff_ne]
    exact ⟨ne_of_mem_of_not_mem hc hdot, ne_of_mem_of_not_mem hc hslash⟩
  rw [pieces, splitPairs_eq_singleton hpair, List.flatMap_singleton, splitWhere_eq_singleton hsingle]

theorem pathSegments_of_isPiece {path : String} (h : IsPiece path) :
    pathSegments path = (segment? path.toList).toList := by
  rw [pathSegments_eq, pieces_of_isPiece h, List.filterMap_cons, List.filterMap_nil]
  cases segment? path.toList <;> rfl

/-- How paths are cut into segments: at pairs of colons, at dots and at slashes. What stands between two of these is a
segment without the marks of references, the brackets and the blanks in it, unless nothing is left of it or it begins
with two braces. -/
structure CutsPaths (segments : String → List (List Char)) : Prop where
  pair (before after : String) : before.toList.getLast? ≠ some ':' →
    segments (before ++ "::" ++ after) = segments before ++ segments after
  dot (before after : String) : segments (before ++ "." ++ after) = segments before ++ segments after
  slash (before after : String) : segments (before ++ "/" ++ after) = segments before ++ segments after
  marker (piece : String) : IsPiece piece → ['\x7b', '\x7b'] <+: piece.toList → segments piece = []
  plain (piece : String) : IsPiece piece → ¬ ['\x7b', '\x7b'] <+: piece.toList →
    segments piece =
      [piece.toList.filter fun c => c ∉ ['&', '*', '(', ')'] ∧ isBlank c = false].filter fun segment => segment ≠ []

theorem cutsPaths_pathSegments : CutsPaths pathSegments where
  pair _ after h := pathSegments_append h after
  dot := pathSegments_append_separator (by decide) (.inl rfl)
  slash := pathSegments_append_separator (by decide) (.inr rfl)
  marker piece h hmarker := by
    rw [pathSegments_of_isPiece h, segment?, if_pos (isMarker_iff.mpr hmarker)]
    rfl
  plain piece h hmarker := by
    have hkept : (fun c => !isDropped c) = fun c => decide (c ∉ ['&', '*', '(', ')'] ∧ isBlank c = false) := by
      funext c
      rw [Bool.eq_iff_iff]
      simp [isDropped, and_assoc]
    rw [pathSegments_of_isPiece h, segment?, if_neg (mt isMarker_iff.mp hmarker), hkept]
    generalize piece.toList.filter _ = segment
    cases segment <;> rfl

/-! ## Going along a path -/

theorem follow_crate (path : List (List Char)) : follow path "crate".toList = path.take 1 := rfl

theorem follow_self (path : List (List Char)) : follow path "self".toList = path := by
  rw [follow, if_neg (by decide), if_pos rfl]

theorem follow_super (path : List (List Char)) : follow path "super".toList = path.dropLast := by
  rw [follow, if_neg (by decide), if_neg (by decide), if_pos rfl]

/-- The segment leads away from where a path has come to, instead of further. -/
def IsTurn (segment : List Char) : Prop :=
  segment = "crate".toList ∨ segment = "self".toList ∨ segment = "super".toList

instance : DecidablePred IsTurn :=
  fun segment => inferInstanceAs (Decidable (segment = _ ∨ segment = _ ∨ segment = _))

theorem follow_of_not_isTurn {segment : List Char} (h : ¬ IsTurn segment) (path : List (List Char)) :
    follow path segment = path ++ [segment] := by
  simp only [IsTurn, not_or] at h
  rw [follow, if_neg h.1, if_neg h.2.1, if_neg h.2.2]

theorem mem_follow {path : List (List Char)} {segment s : List Char} (h : s ∈ follow path segment) :
    s ∈ path ∨ s = segment := by
  unfold follow at h
  split at h
  · exact .inl (List.mem_of_mem_take h)
  · split at h
    · exact .inl h
    · split at h
      · exact .inl (List.dropLast_subset _ h)
      · simpa using h

/-- No segment of an absolute path is new. -/
theorem mem_foldl_follow {path segments : List (List Char)} {s : List Char} (h : s ∈ segments.foldl follow path) :
    s ∈ path ∨ s ∈ segments := by
  induction segments generalizing path with
  | nil => exact .inl h
  | cons segment rest ih =>
    rcases ih h with hfollowed | hrest
    · exact (mem_follow hfollowed).imp_right fun heq => List.mem_cons.mpr (.inl heq)
    · exact .inr (List.mem_cons_of_mem _ hrest)

theorem isClean_of_mem_absolutePath {modulePath itemPath : String} {segment : List Char}
    (h : segment ∈ absolutePath modulePath itemPath) : IsClean segment :=
  (mem_foldl_follow h).elim isClean_of_mem_pathSegments isClean_of_mem_pathSegments

/-- Segments that only lead further are appended. -/
theorem foldl_follow_of_not_isTurn {path segments : List (List Char)} (h : ∀ s ∈ segments, ¬ IsTurn s) :
    segments.foldl follow path = path ++ segments := by
  induction segments generalizing path with
  | nil => simp
  | cons segment rest ih =>
    obtain ⟨hsegment, hrest⟩ := List.forall_mem_cons.mp h
    rw [List.foldl_cons, follow_of_not_isTurn hsegment, ih hrest, List.append_assoc, List.singleton_append]

/-- Where segments lead from a path, read one after the other: `crate` leaves the first segment only, `self` everything,
`super` everything but the last segment if there is one, and any other segment is appended. -/
inductive LeadsTo : List (List Char) → List (List Char) → List (List Char) → Prop
  | here {path : List (List Char)} : LeadsTo path [] path
  | crate {first : List Char} {path rest target : List (List Char)} :
      LeadsTo [first] rest target → LeadsTo (first :: path) ("crate".toList :: rest) target
  | crateNowhere {rest target : List (List Char)} : LeadsTo [] rest target → LeadsTo [] ("crate".toList :: rest) target
  | self {path rest target : List (List Char)} : LeadsTo path rest target → LeadsTo path ("self".toList :: rest) target
  | super {last : List Char} {path rest target : List (List Char)} :
      LeadsTo path rest target → LeadsTo (path ++ [last]) ("super".toList :: rest) target
  | superNowhere {rest target : List (List Char)} : LeadsTo [] rest target → LeadsTo [] ("super".toList :: rest) target
  | further {segment : List Char} {path rest target : List (List Char)} :
      ¬ IsTurn segment → LeadsTo (path ++ [segment]) rest target → LeadsTo path (segment :: rest) target

theorem LeadsTo.eq_foldl {path segments target : List (List Char)} (h : LeadsTo path segments target) :
    target = segments.foldl follow path := by
  induction h with
  | here => rfl
  | crate _ ih | crateNowhere _ ih => rw [ih, List.foldl_cons, follow_crate]; rfl
  | self _ ih => rw [ih, List.foldl_cons, follow_self]
  | super _ ih => rw [ih, List.foldl_cons, follow_super, List.dropLast_concat]
  | superNowhere _ ih => rw [ih, List.foldl_cons, follow_super, List.dropLast_nil]
  | further hsegment _ ih => rw [ih, List.foldl_cons, follow_of_not_isTurn hsegment]

theorem leadsTo_foldl (path segments : List (List Char)) : LeadsTo path segments (segments.foldl follow path) := by
  induction segments generalizing path with
  | nil => exact .here
  | cons segment rest ih =>
    have hrest := ih (follow path segment)
    by_cases hturn : IsTurn segment
    · rcases hturn with rfl | rfl | rfl
      · cases path with
        | nil => exact .crateNowhere hrest
        | cons first path => exact .crate hrest
      · rw [follow_self] at hrest
        exact .self (by rwa [List.foldl_cons, follow_self])
      · rw [follow_super] at hrest
        rw [List.foldl_cons, follow_super]
        rcases path.eq_nil_or_concat' with rfl | ⟨path, last, rfl⟩
        · exact .superNowhere hrest
        · rw [List.dropLast_concat] at hrest ⊢
          exact .super hrest
    · rw [follow_of_not_isTurn hturn] at hrest
      rw [List.foldl_cons, follow_of_not_isTurn hturn]
      exact .further hturn hrest

theorem leadsTo_iff {path segments target : List (List Char)} :
    LeadsTo path segments target ↔ target = segments.foldl follow path := by
  constructor
  · exact LeadsTo.eq_foldl
  · rintro rfl
    exact leadsTo_foldl path segments

/-- `self` in front of an item path leads nowhere. -/
theorem absolutePath_self (modulePath itemPath : String) :
    absolutePath modulePath ("self::" ++ itemPath) = absolutePath modulePath itemPath := by
  have hself : pathSegments "self" = ["self".toList] := by decide +kernel
  have hsegments : pathSegments ("self::" ++ itemPath) = "self".toList :: pathSegments itemPath := by
    have hcolon : "self".toList.getLast? ≠ some ':' := by decide
    exact (pathSegments_append hcolon itemPath).trans (by rw [hself]; rfl)
  rw [absolutePath, hsegments, List.foldl_cons, follow_self]
  rfl

/-- A module path without turns can as well stand in front of the item path. -/
theorem absolutePath_prepend {modulePath : String} (hcolon : modulePath.toList.getLast? ≠ some ':')
    (hturn : ∀ s ∈ pathSegments modulePath, ¬ IsTurn s) (itemPath : String) :
    absolutePath "" (modulePath ++ "::" ++ itemPath) = absolutePath modulePath itemPath := by
  have hempty : pathSegments "" = [] := by decide +kernel
  rw [absolutePath, absolutePath, pathSegments_append hcolon, List.foldl_append, foldl_follow_of_not_isTurn hturn,
    hempty, List.nil_append]

/-! ## The module and the name -/

/-- The path ends in a module and the name of what is in it: the name is the last segment with the types right before
it, and the module is no type. -/
def EndsIn (path : List (List Char)) (ns : List Char) (name : List (List Char)) : Prop :=
  (∃ before, path = before ++ ns :: name) ∧ name ≠ [] ∧ startsUppercase ns = false ∧
    ∀ s ∈ name.dropLast, startsUppercase s = true

theorem splitTypes_eq_none {name segments : List (List Char)} :
    splitTypes name segments = none ↔ ∀ s ∈ segments, startsUppercase s = true := by
  fun_induction splitTypes name segments with
  | case1 => simp
  | case2 name segment before hupper ih => simpa [hupper] using ih
  | case3 name segment before hlower => simp [hlower]

theorem splitTypes_append {name types before : List (List Char)} {ns : List Char}
    (htypes : ∀ s ∈ types, startsUppercase s = true) (hns : startsUppercase ns = false) :
    splitTypes name (types ++ ns :: before) = some (ns, types.reverse ++ name) := by
  induction types generalizing name with
  | nil => simp [splitTypes, hns]
  | cons segment types ih =>
    obtain ⟨hsegment, htypes⟩ := List.forall_mem_cons.mp htypes
    rw [List.cons_append, splitTypes, if_pos hsegment, ih htypes, List.reverse_cons, List.append_assoc,
      List.singleton_append]

theorem exists_of_splitTypes {name name' segments : List (List Char)} {ns : List Char}
    (h : splitTypes name segments = some (ns, name')) :
    ∃ types before, segments = types ++ ns :: before ∧ name' = types.reverse ++ name ∧
      startsUppercase ns = false ∧ ∀ s ∈ types, startsUppercase s = true := by
  fun_induction splitTypes name segments with
  | case1 => cases h
  | case2 name segment before hupper ih =>
    obtain ⟨types, before', rfl, rfl, hns, htypes⟩ := ih h
    exact ⟨segment :: types, before', rfl, by simp, hns, List.forall_mem_cons.mpr ⟨hupper, htypes⟩⟩
  | case3 name segment before hlower =>
    cases h
    exact ⟨[], before, rfl, rfl, by simpa using hlower, nofun⟩

theorem moduleAndName_concat (path : List (List Char)) (last : List Char) :
    moduleAndName (path ++ [last]) = splitTypes [last] path.reverse := by
  simp [moduleAndName]

/-- No module is found where all segments before the last one are types. -/
theorem moduleAndName_eq_none {path : List (List Char)} :
    moduleAndName path = none ↔ ∀ s ∈ path.dropLast, startsUppercase s = true := by
  rcases path.eq_nil_or_concat' with rfl | ⟨path, last, rfl⟩
  · simp [moduleAndName]
  · simp [moduleAndName_concat, splitTypes_eq_none]

theorem moduleAndName_eq_some {path name : List (List Char)} {ns : List Char} :
    moduleAndName path = some (ns, name) ↔ EndsIn path ns name := by
  constructor
  · intro h
    rcases path.eq_nil_or_concat' with rfl | ⟨path, last, rfl⟩
    · cases h
    · rw [moduleAndName_concat] at h
      obtain ⟨types, before, hpath, rfl, hns, htypes⟩ := exists_of_splitTypes h
      obtain rfl : path = (types ++ ns :: before).reverse := by rw [← hpath, List.reverse_reverse]
      exact ⟨⟨before.reverse, by simp⟩, by simp, hns, by simpa using htypes⟩
  · rintro ⟨⟨before, rfl⟩, hne, hns, htypes⟩
    obtain ⟨types, last, rfl⟩ := name.eq_nil_or_concat'.resolve_left hne
    have hpath : before ++ ns :: (types ++ [last]) = (before ++ ns :: types) ++ [last] := by simp
    have hreverse : (before ++ ns :: types).reverse = types.reverse ++ ns :: before.reverse := by simp
    rw [hpath, moduleAndName_concat, hreverse, splitTypes_append (by simpa using htypes) hns, List.reverse_reverse]

theorem exists_endsIn_iff {path : List (List Char)} :
    (∃ ns name, EndsIn path ns name) ↔ ∃ s ∈ path.dropLast, startsUppercase s = false := by
  constructor
  · rintro ⟨ns, name, hends⟩
    by_contra hnone
    have htypes : ∀ s ∈ path.dropLast, startsUppercase s = true := by simpa using hnone
    cases (moduleAndName_eq_some.mpr hends).symm.trans (moduleAndName_eq_none.mpr htypes)
  · rintro ⟨s, hs, hlower⟩
    cases hsplit : moduleAndName path with
    | none => exact absurd (moduleAndName_eq_none.mp hsplit s hs) (by simp [hlower])
    | some found => exact ⟨found.1, found.2, moduleAndName_eq_some.mp hsplit⟩

/-! ## Resolving -/

section

variable {modulePath itemPath : String}

/-- What is resolved is valid, because the segments are clean. -/
theorem resolve_of_endsIn {ns : List Char} {name : List (List Char)}
    (h : EndsIn (absolutePath modulePath itemPath) ns name) :
    ∃ identity, resolve modulePath itemPath = .ok identity ∧ identity.ns = String.ofList ns ∧
      identity.name = join "_" (name.map String.ofList) := by
  have hclean : ∀ s ∈ absolutePath modulePath itemPath, IsClean s := fun _ => isClean_of_mem_absolutePath
  have hsplit := moduleAndName_eq_some.mpr h
  obtain ⟨⟨before, hpath⟩, hne, -, -⟩ := h
  rw [hpath] at hclean
  have hns : isSegment (String.ofList ns) = true := isSegment_iff.mpr (by simpa using hclean ns (by simp))
  have hname : isSegment (join "_" (name.map String.ofList)) = true :=
    isSegment_join hne fun s hs => hclean s (by simp [hs])
  exact ⟨⟨_, _, hns, hname⟩, by simp only [resolve, hsplit, ofParts, hns, hname, dif_pos], rfl, rfl⟩

theorem resolve_of_not_endsIn (h : ¬ ∃ ns name, EndsIn (absolutePath modulePath itemPath) ns name) :
    resolve modulePath itemPath = .error (.unresolvable (givenPath modulePath itemPath)) := by
  have hsplit : moduleAndName (absolutePath modulePath itemPath) = none := by
    refine Option.eq_none_iff_forall_ne_some.mpr fun found hsome => h ?_
    exact ⟨found.1, found.2, moduleAndName_eq_some.mp hsome⟩
  simp only [resolve, hsplit]

theorem resolve_eq_ok {identity : RouteIdentity} :
    resolve modulePath itemPath = .ok identity ↔
      ∃ ns name, EndsIn (absolutePath modulePath itemPath) ns name ∧ identity.ns = String.ofList ns ∧
        identity.name = join "_" (name.map String.ofList) := by
  constructor
  · intro hok
    by_cases hends : ∃ ns name, EndsIn (absolutePath modulePath itemPath) ns name
    · obtain ⟨ns, name, hends⟩ := hends
      obtain ⟨identity', hok', hparts⟩ := resolve_of_endsIn hends
      cases hok'.symm.trans hok
      exact ⟨ns, name, hends, hparts⟩
    · cases (resolve_of_not_endsIn hends).symm.trans hok
  · rintro ⟨ns, name, hends, hns, hname⟩
    obtain ⟨identity', hok, hns', hname'⟩ := resolve_of_endsIn hends
    have heq : identity' = identity :=
      names_injective (Prod.ext (hns'.trans hns.symm) (hname'.trans hname.symm))
    exact heq ▸ hok

theorem resolve_eq_error {e : IdentityError} (h : resolve modulePath itemPath = .error e) :
    e = .unresolvable (givenPath modulePath itemPath) := by
  by_cases hends : ∃ ns name, EndsIn (absolutePath modulePath itemPath) ns name
  · obtain ⟨ns, name, hends⟩ := hends
    obtain ⟨identity, hok, -⟩ := resolve_of_endsIn hends
    cases hok.symm.trans h
  · cases (resolve_of_not_endsIn hends).symm.trans h
    rfl

theorem givenPath_eq (modulePath itemPath : String) :
    givenPath modulePath itemPath = if modulePath = "" then itemPath else modulePath ++ "::" ++ itemPath := by
  simp only [givenPath, String.isEmpty_iff]

/-- Resolving goes by the absolute path alone, except for the text of the error. -/
theorem resolve_congr {modulePath' itemPath' : String}
    (h : absolutePath modulePath itemPath = absolutePath modulePath' itemPath') :
    (resolve modulePath itemPath).toOption = (resolve modulePath' itemPath').toOption := by
  simp only [resolve, h]
  cases moduleAndName (absolutePath modulePath' itemPath') <;> rfl

end

/-- **Paths are resolved exactly, and to nothing that is not valid.** The absolute path is where the segments of the item
path lead from those of the module path. An identity is resolved if and only if the absolute path has at least two
segments and one before the last is no type. The namespace is the last of these, and the name is what comes after it,
joined with underscores. There is no other failure than that there is none: the parts of an identity are never empty and
hold no dot, slash or blank. It changes nothing to write `self` in front of an item path, nor to write the module path
there, if that does not end in a colon and none of its segments is a turn. -/
theorem resolve_spec (modulePath itemPath : String) :
    let path := absolutePath modulePath itemPath
    CutsPaths pathSegments ∧
    (∀ target, LeadsTo (pathSegments modulePath) (pathSegments itemPath) target ↔ target = path) ∧
    ((∃ identity, resolve modulePath itemPath = .ok identity) ↔
      2 ≤ path.length ∧ ∃ s ∈ path.dropLast, startsUppercase s = false) ∧
    (∀ identity, resolve modulePath itemPath = .ok identity ↔
      ∃ ns name, EndsIn path ns name ∧ identity.ns = String.ofList ns ∧
        identity.name = join "_" (name.map String.ofList)) ∧
    (∀ e, resolve modulePath itemPath = .error e →
      e = .unresolvable (if modulePath = "" then itemPath else modulePath ++ "::" ++ itemPath)) ∧
    (∀ identity, resolve modulePath itemPath = .ok identity → ∀ part ∈ [identity.ns, identity.name],
      part ≠ "" ∧ ∀ c ∈ part.toList, c ≠ '.' ∧ c ≠ '/' ∧ isBlank c = false) ∧
    (resolve modulePath ("self::" ++ itemPath)).toOption = (resolve modulePath itemPath).toOption ∧
    (modulePath.toList.getLast? ≠ some ':' → (∀ s ∈ pathSegments modulePath, ¬ IsTurn s) →
      (resolve "" (modulePath ++ "::" ++ itemPath)).toOption = (resolve modulePath itemPath).toOption) := by
  intro path
  refine ⟨cutsPaths_pathSegments, fun target => leadsTo_iff, ?_, fun identity => resolve_eq_ok,
    fun e h => givenPath_eq modulePath itemPath ▸ resolve_eq_error h, ?_, ?_, ?_⟩
  · constructor
    · rintro ⟨identity, hok⟩
      obtain ⟨ns, name, hends, -⟩ := resolve_eq_ok.mp hok
      obtain ⟨s, hs, hlower⟩ := exists_endsIn_iff.mp ⟨ns, name, hends⟩
      have hlength : 0 < path.dropLast.length := List.length_pos_of_mem hs
      rw [List.length_dropLast] at hlength
      exact ⟨by omega, s, hs, hlower⟩
    · rintro ⟨-, hmodule⟩
      obtain ⟨ns, name, hends⟩ := exists_endsIn_iff.mpr hmodule
      obtain ⟨identity, hok, -⟩ := resolve_of_endsIn hends
      exact ⟨identity, hok⟩
  · intro identity _ part hpart
    have hsegment : isSegment part = true := by
      rcases List.mem_cons.mp hpart with rfl | hpart
      · exact identity.ns_isSegment
      · obtain rfl := List.mem_singleton.mp hpart
        exact identity.name_isSegment
    obtain ⟨hne, hbreak⟩ := isSegment_iff.mp hsegment
    refine ⟨by simpa using hne, fun c hc => ?_⟩
    simpa [isSegmentBreak, and_assoc] using hbreak c hc
  · exact resolve_congr (absolutePath_self modulePath itemPath)
  · intro hcolon hturn
    exact resolve_congr (absolutePath_prepend hcolon hturn itemPath)

/-- A method, named from its module and from the root of all paths, and one of which the module is missing; and the same
method, to which the way leads from another module through the root of the crate and back from a third module. -/
theorem resolve_spec_method :
    let modulePath := "app::auth::\x7b\x7bclosure\x7d\x7d::tokens"
    let itemPath := "&crate::users::super/greeter.self::Server :: greet"
    "app::greeter".toList.getLast? ≠ some ':' ∧ (∀ s ∈ pathSegments "app::greeter", ¬ IsTurn s) ∧
    (∃ identity, resolve "app::greeter" "Server::greet" = .ok identity ∧ identity.key = "greeter.Server_greet") ∧
    (resolve "" "app::greeter::Server::greet").toOption = (resolve "app::greeter" "Server::greet").toOption ∧
    resolve "" "Server::greet" = .error (.unresolvable "Server::greet") ∧
    (pathSegments modulePath).map String.ofList = ["app", "auth", "tokens"] ∧
    (pathSegments itemPath).map String.ofList = ["crate", "users", "super", "greeter", "self", "Server", "greet"] ∧
    (∃ target, LeadsTo (pathSegments modulePath) (pathSegments itemPath) target ∧
      target.map String.ofList = ["app", "greeter", "Server", "greet"]) ∧
    ∃ identity, resolve modulePath itemPath = .ok identity ∧ identity.key = "greeter.Server_greet" := by
  intro modulePath itemPath
  have hcolon : "app::greeter".toList.getLast? ≠ some ':' := by
    decide
  have hturn : ∀ s ∈ pathSegments "app::greeter", ¬ IsTurn s := by
    decide +kernel
  have hkey : (resolve "app::greeter" "Server::greet").toOption.map key = some "greeter.Server_greet" := by
    decide +kernel
  have hkey' : (resolve modulePath itemPath).toOption.map key = some "greeter.Server_greet" := by
    decide +kernel
  obtain ⟨-, -, hresolves, -, -, -, -, hprepend⟩ := resolve_spec "app::greeter" "Server::greet"
  obtain ⟨-, hleads, hresolves', -⟩ := resolve_spec modulePath itemPath
  obtain ⟨identity, hok⟩ := hresolves.mpr (by decide +kernel)
  obtain ⟨identity', hok'⟩ := hresolves'.mpr (by decide +kernel)
  rw [hok] at hkey
  rw [hok'] at hkey'
  refine ⟨hcolon, hturn, ⟨identity, hok, Option.some.inj hkey⟩, hprepend hcolon hturn, ?_, by decide +kernel,
    by decide +kernel, ⟨_, (hleads _).mpr rfl, by decide +kernel⟩, identity', hok', Option.some.inj hkey'⟩
  obtain ⟨-, -, hresolves, -, hfails, -⟩ := resolve_spec "" "Server::greet"
  cases hrun : resolve "" "Server::greet" with
  | ok identity => exact absurd (hresolves.mp ⟨identity, hrun⟩) (by decide +kernel)
  | error e => rw [hfails e hrun, if_pos rfl]

/-- Where a module path ends in a colon, the pair that follows is read one colon too early. -/
example : (resolve "a:" "f").toOption.map key = some "a:.f" ∧ (resolve "" "a:::f").toOption.map key = some "a.:f" := by
  decide +kernel

end TypedRpc.RouteIdentity
