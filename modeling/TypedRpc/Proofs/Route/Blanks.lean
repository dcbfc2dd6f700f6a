import TypedRpc.Proofs.Route.Resolve

/-!
# Blanks in paths

The blanks in a path are dropped from its segments, but after it has been cut and after the markers have been found
among its pieces. It is cut in the same places without the blanks if none stands between two colons. A piece with a
blank in front of its braces or between them is not taken for a marker, though: it becomes a segment, and without the
blank it would not. Main statement: `resolve_withoutBlanks`.
-/

namespace TypedRpc.RouteIdentity

open TypedRpc.Text

/-! ## Pieces of a path -/

/-- The characters that are no blanks. -/
def dropBlanks : List Char → List Char :=
  List.filter fun c => !isBlank c

/-- A path without the blanks in it. -/
def withoutBlanks (path : String) : String :=
  String.ofList (dropBlanks path.toList)

/-- No blank stands between two colons. -/
def ColonsMeet (path : String) : Prop :=
  PairsMeet (fun c => !isBlank c) ':' path.toList

instance (path : String) : Decidable (ColonsMeet path) :=
  inferInstanceAs (Decidable (PairsMeet _ _ _))

/-- The piece is a marker without the blanks in it, but not with them. -/
def HidesMarker (piece : List Char) : Prop :=
  isMarker piece = false ∧ isMarker (dropBlanks piece) = true

instance (piece : List Char) : Decidable (HidesMarker piece) :=
  inferInstanceAs (Decidable (_ ∧ _))

theorem pieces_withoutBlanks {path : String} (h : ColonsMeet path) :
    pieces (withoutBlanks path) = (pieces path).map dropBlanks := by
  have hseparator : ∀ c : Char, (c == '.' || c == '/') = true → (!isBlank c) = true := by
    intro c hc
    simp only [Bool.or_eq_true, beq_iff_eq] at hc
    rcases hc with rfl | rfl <;> decide
  rw [pieces, withoutBlanks, String.toList_ofList, dropBlanks, splitPairs_filter (by decide) h, List.flatMap_map,
    pieces, List.map_flatMap]
  exact List.flatMap_congr fun part _ => splitWhere_filter hseparator part

/-! ## Segments of pieces -/

/-- A marker stays one, because there are no blanks in what begins it. -/
theorem isMarker_dropBlanks {piece : List Char} (h : isMarker piece = true) : isMarker (dropBlanks piece) = true := by
  obtain ⟨rest, rfl⟩ := isMarker_iff.mp h
  exact isMarker_iff.mpr ⟨dropBlanks rest, by rw [dropBlanks, List.filter_append]; rfl⟩

theorem filter_isDropped_dropBlanks (piece : List Char) :
    (dropBlanks piece).filter (fun c => !isDropped c) = piece.filter fun c => !isDropped c := by
  rw [dropBlanks, List.filter_filter]
  refine List.filter_congr fun c _ => ?_
  cases hblank : isBlank c <;> simp [isDropped, hblank]

/-- Without its blanks a piece becomes the same segment, unless it is found to be a marker. -/
theorem segment?_dropBlanks (piece : List Char) :
    segment? (dropBlanks piece) = if HidesMarker piece then none else segment? piece := by
  by_cases hmarker : isMarker piece = true
  · rw [if_neg fun hhides => by simp [hhides.1] at hmarker, segment?, segment?, if_pos hmarker,
      if_pos (isMarker_dropBlanks hmarker)]
  · by_cases hfound : isMarker (dropBlanks piece) = true
    · rw [if_pos ⟨by simpa using hmarker, hfound⟩, segment?, if_pos hfound]
    · rw [if_neg fun hhides => hfound hhides.2, segment?, segment?, if_neg hmarker, if_neg hfound,
        filter_isDropped_dropBlanks]

/-- What hides a marker becomes a segment. -/
theorem exists_segment_of_hidesMarker {piece : List Char} (h : HidesMarker piece) :
    ∃ segment, segment? piece = some segment := by
  have hbrace : '\x7b' ∈ piece := by
    obtain ⟨rest, hrest⟩ := isMarker_iff.mp h.2
    have hmem : '\x7b' ∈ dropBlanks piece := hrest ▸ List.mem_append_left rest (by decide)
    exact List.mem_of_mem_filter hmem
  have hkept : '\x7b' ∈ piece.filter fun c => !isDropped c := List.mem_filter.mpr ⟨hbrace, by decide⟩
  have hne : (piece.filter fun c => !isDropped c).isEmpty = false := by
    simpa using List.ne_nil_of_mem hkept
  exact ⟨piece.filter fun c => !isDropped c, by simp [segment?, h.1, hne]⟩

/-- Without its blanks, a path has the segments of the pieces that hide no marker. -/
theorem pathSegments_withoutBlanks {path : String} (h : ColonsMeet path) :
    pathSegments (withoutBlanks path) = ((pieces path).filter fun piece => !decide (HidesMarker piece)).filterMap
      segment? := by
  rw [pathSegments_eq, pieces_withoutBlanks h, List.filterMap_map, List.filterMap_filter]
  refine List.filterMap_congr fun piece _ => ?_
  rw [Function.comp_apply, segment?_dropBlanks]
  by_cases hhides : HidesMarker piece <;> simp [hhides]

/-- A selection that keeps all results is a selection of everything, if what is left out had a result. -/
theorem filterMap_filter_eq_iff {α β : Type} {f : α → Option β} {keep : α → Bool} {items : List α}
    (h : ∀ item ∈ items, keep item = false → f item ≠ none) :
    (items.filter keep).filterMap f = items.filterMap f ↔ ∀ item ∈ items, keep item = true := by
  induction items with
  | nil => simp
  | cons item items ih =>
    obtain ⟨hitem, hitems⟩ := List.forall_mem_cons.mp h
    rw [List.forall_mem_cons]
    by_cases hkeep : keep item = true
    · rw [List.filter_cons_of_pos hkeep, ← ih hitems]
      cases hf : f item <;> simp [hf, hkeep]
    · obtain ⟨b, hb⟩ := Option.ne_none_iff_exists'.mp (hitem (by simpa using hkeep))
      have hlength := (List.filter_sublist.filterMap f : ((items.filter keep).filterMap f).Sublist _).length_le
      rw [List.filter_cons_of_neg hkeep, List.filterMap_cons_some hb]
      refine iff_of_false (fun heq => ?_) fun hall => hkeep hall.1
      rw [heq, List.length_cons] at hlength
      omega

theorem pathSegments_withoutBlanks_iff {path : String} (h : ColonsMeet path) :
    pathSegments (withoutBlanks path) = pathSegments path ↔ ∀ piece ∈ pieces path, ¬ HidesMarker piece := by
  rw [pathSegments_withoutBlanks h, pathSegments_eq, filterMap_filter_eq_iff]
  · simp
  · intro piece _ hhides
    obtain ⟨segment, hsegment⟩ := exists_segment_of_hidesMarker (by simpa using hhides)
    simp [hsegment]

/-! ## Resolving without blanks -/

/-- **Blanks do not matter where they hide no marker.** Let no blank stand between two colons of a path. Then the path
has the same segments without its blanks if and only if no piece of it becomes a marker by losing them. When that is so
of a module path and an item path, the same identity is resolved from them with and without their blanks, or none. -/
theorem resolve_withoutBlanks {modulePath itemPath : String} (hmodule : ColonsMeet modulePath)
    (hitem : ColonsMeet itemPath) :
    (∀ path ∈ [modulePath, itemPath],
      pathSegments (withoutBlanks path) = pathSegments path ↔ ∀ piece ∈ pieces path, ¬ HidesMarker piece) ∧
    ((∀ path ∈ [modulePath, itemPath], ∀ piece ∈ pieces path, ¬ HidesMarker piece) →
      ∀ identity, resolve (withoutBlanks modulePath) (withoutBlanks itemPath) = .ok identity ↔
        resolve modulePath itemPath = .ok identity) := by
  have hsegments : ∀ path ∈ [modulePath, itemPath],
      pathSegments (withoutBlanks path) = pathSegments path ↔ ∀ piece ∈ pieces path, ¬ HidesMarker piece := by
    simpa using ⟨pathSegments_withoutBlanks_iff hmodule, pathSegments_withoutBlanks_iff hitem⟩
  refine ⟨hsegments, fun hshown identity => ?_⟩
  have hsame : ∀ path ∈ [modulePath, itemPath], pathSegments (withoutBlanks path) = pathSegments path :=
    fun path hpath => (hsegments path hpath).mpr (hshown path hpath)
  have hpath : absolutePath (withoutBlanks modulePath) (withoutBlanks itemPath) = absolutePath modulePath itemPath := by
    rw [absolutePath, hsame modulePath (by simp), hsame itemPath (by simp), absolutePath]
  rw [resolve_eq_ok, resolve_eq_ok, hpath]

/-- A method that is written with spaces around the colons. -/
theorem resolve_withoutBlanks_method :
    ColonsMeet "demo::greeter" ∧ ColonsMeet "& Server :: greet" ∧
    (∀ path ∈ ["demo::greeter", "& Server :: greet"], ∀ piece ∈ pieces path, ¬ HidesMarker piece) ∧
    withoutBlanks "& Server :: greet" = "&Server::greet" ∧
    ∃ identity, identity.key = "greeter.Server_greet" ∧ resolve "demo::greeter" "& Server :: greet" = .ok identity ∧
      resolve "demo::greeter" "&Server::greet" = .ok identity := by
  have hmodule : ColonsMeet "demo::greeter" := by decide +kernel
  have hitem : ColonsMeet "& Server :: greet" := by decide +kernel
  have hshown : ∀ path ∈ ["demo::greeter", "& Server :: greet"], ∀ piece ∈ pieces path, ¬ HidesMarker piece := by
    decide +kernel
  have hkept : withoutBlanks "demo::greeter" = "demo::greeter" := by decide +kernel
  have hdropped : withoutBlanks "& Server :: greet" = "&Server::greet" := by decide +kernel
  let identity : RouteIdentity := ⟨"greeter", "Server_greet", by decide, by decide⟩
  have hresolve : resolve "demo::greeter" "& Server :: greet" = .ok identity := by decide +kernel
  have hsame := ((resolve_withoutBlanks hmodule hitem).2 hshown identity).mpr hresolve
  rw [hkept, hdropped] at hsame
  exact ⟨hmodule, hitem, hshown, hdropped, identity, by decide, hresolve, hsame⟩

/-- A marker with a space in front of it, which none stands between two colons, is resolved to a name. -/
theorem resolve_space_before_marker :
    ColonsMeet "demo::users" ∧ ColonsMeet "load:: \x7b\x7bclosure\x7d\x7d" ∧
    withoutBlanks "load:: \x7b\x7bclosure\x7d\x7d" = "load::\x7b\x7bclosure\x7d\x7d" ∧
    (resolve "demo::users" "load:: \x7b\x7bclosure\x7d\x7d").toOption.map key = some "load.\x7b\x7bclosure\x7d\x7d" ∧
    (resolve "demo::users" "load::\x7b\x7bclosure\x7d\x7d").toOption.map key = some "users.load" := by
  decide +kernel

/-- Two colons that meet when a space between them is dropped separate what they did not. -/
example : ¬ ColonsMeet "demo: :greet" ∧ resolve "" "demo: :greet" = .error (.unresolvable "demo: :greet") ∧
    (resolve "" (withoutBlanks "demo: :greet")).toOption.map key = some "demo.greet" := by
  decide +kernel

end TypedRpc.RouteIdentity
