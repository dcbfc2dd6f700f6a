import Mathlib.Data.List.Basic
import TypedRpc.Proofs.Text.Split
import TypedRpc.Route.Mount

/-!
# Keys and routes

The namespace of an identity holds no dot, so a key is read back as the identity that it was made of. Hence two
identities with one key are one identity, and below one mount so are two with one route.
-/

namespace TypedRpc

open TypedRpc.Text

/-- Characters that can be a part of an identity. -/
def IsClean (segment : List Char) : Prop :=
  segment ≠ [] ∧ ∀ c ∈ segment, isSegmentBreak c = false

theorem isSegment_iff {part : String} : isSegment part = true ↔ IsClean part.toList := by
  simp [isSegment, IsClean]

/-- No character of a segment is a dot, a slash or a blank. -/
theorem not_isSegmentBreak_of_mem {s : String} (h : isSegment s = true) {c : Char} (hc : c ∈ s.toList) :
    isSegmentBreak c = false :=
  (isSegment_iff.mp h).2 c hc

namespace RouteIdentity

/-- What is made of two parts is the identity that consists of them. -/
theorem ofParts_eq_ok_iff {ns name : String} {identity : RouteIdentity} :
    ofParts ns name = .ok identity ↔ identity.ns = ns ∧ identity.name = name := by
  constructor
  · intro h
    unfold ofParts at h
    split at h
    · split at h
      · cases h
        exact ⟨rfl, rfl⟩
      · cases h
    · cases h
  · rintro ⟨rfl, rfl⟩
    rw [ofParts, dif_pos identity.ns_isSegment, dif_pos identity.name_isSegment]

/-- A key is read back as the identity that it is the key of. -/
theorem ofKey_key (identity : RouteIdentity) : ofKey identity.key = .ok identity := by
  obtain ⟨ns, name, hns, hname⟩ := identity
  have hdot : '.' ∉ ns.toList := by
    intro hmem
    have := not_isSegmentBreak_of_mem hns hmem
    simp [isSegmentBreak] at this
  have hkey : (key ⟨ns, name, hns, hname⟩).toList = ns.toList ++ '.' :: name.toList := by
    simp [key]
  rw [ofKey, hkey, splitFirst_append hdot]
  simp [ofParts, hns, hname]

/-- A text is read as an identity only if it is the key of it. -/
theorem key_of_ofKey {s : String} {identity : RouteIdentity} (h : ofKey s = .ok identity) : identity.key = s := by
  rw [ofKey] at h
  split at h
  · rename_i ns name hsplit
    obtain ⟨hns, hname⟩ := ofParts_eq_ok_iff.mp h
    rw [key, hns, hname, ← String.toList_inj, eq_append_of_splitFirst hsplit]
    simp
  · cases h

theorem key_injective : Function.Injective key := by
  intro a b h
  have hread : (Except.ok a : Except IdentityError RouteIdentity) = .ok b := by
    rw [← ofKey_key a, h, ofKey_key b]
  exact Except.ok.inj hread

/-- An identity is its two parts. -/
theorem names_injective : Function.Injective fun identity : RouteIdentity => (identity.ns, identity.name) := by
  rintro ⟨ns, name, _, _⟩ ⟨ns', name', _, _⟩ h
  cases h
  rfl

end RouteIdentity

namespace Mount

/-- Below one mount, different identities have different routes. -/
theorem routeOf_injective (mount : Mount) : Function.Injective mount.routeOf := by
  intro a b h
  have hkeys : a.key.toList = b.key.toList := by
    simpa [routeOf] using congrArg String.toList h
  exact RouteIdentity.key_injective (String.toList_inj.mp hkeys)

theorem dropTrailingSlash_append (base : String) : dropTrailingSlash (base ++ "/") = base := by
  simp [dropTrailingSlash]

theorem dropTrailingSlash_of_ne {path : String} (h : path.toList.getLast? ≠ some '/') :
    dropTrailingSlash path = path := by
  unfold dropTrailingSlash
  split
  · rename_i rest hreverse
    exact absurd (by rw [← List.head?_reverse, hreverse, List.head?_cons]) h
  · rfl

/-- The mount path without one slash at its end. -/
theorem dropTrailingSlash_eq {mount : Mount} {base : String}
    (h : mount.path = base ++ "/" ∨ (mount.path = base ∧ base.toList.getLast? ≠ some '/')) :
    dropTrailingSlash mount.path = base := by
  rcases h with h | ⟨rfl, h⟩
  · rw [h, dropTrailingSlash_append]
  · exact dropTrailingSlash_of_ne h

theorem exists_base (mount : Mount) :
    ∃ base : String, mount.path = base ++ "/" ∨ (mount.path = base ∧ base.toList.getLast? ≠ some '/') := by
  by_cases h : mount.path.toList.getLast? = some '/'
  · obtain ⟨base, hbase⟩ := List.getLast?_eq_some_iff.mp h
    exact ⟨String.ofList base, .inl (String.toList_inj.mp (by simpa using hbase))⟩
  · exact ⟨mount.path, .inr ⟨rfl, h⟩⟩

/-- The identity of the handler at a path below a base: what comes after the base and a slash, read as a key. -/
def identityBelow? (base path : String) : Option RouteIdentity :=
  (path.toList.dropPrefix? (base ++ "/").toList).bind fun key =>
    (RouteIdentity.ofKey (String.ofList key)).toOption

theorem identityBelow?_append (base : String) (identity : RouteIdentity) :
    identityBelow? base (base ++ "/" ++ identity.key) = some identity := by
  have hdrop : (base ++ "/" ++ identity.key).toList.dropPrefix? (base ++ "/").toList = some identity.key.toList :=
    List.dropPrefix?_eq_some_iff.mpr ⟨_, by rw [String.toList_append], by simp⟩
  rw [identityBelow?, hdrop, Option.bind_some, String.ofList_toList, RouteIdentity.ofKey_key]
  rfl

/-- An identity is found at its own path only. -/
theorem eq_of_identityBelow? {base path : String} {identity : RouteIdentity}
    (h : identityBelow? base path = some identity) : base ++ "/" ++ identity.key = path := by
  obtain ⟨key, hdrop, hread⟩ := Option.bind_eq_some_iff.mp h
  obtain ⟨before, hpath, hbefore⟩ := List.dropPrefix?_eq_some_iff.mp hdrop
  have hkey : identity.key = String.ofList key := by
    cases hok : RouteIdentity.ofKey (String.ofList key) with
    | ok found =>
      rw [hok] at hread
      cases hread
      exact RouteIdentity.key_of_ofKey hok
    | error e =>
      rw [hok] at hread
      cases hread
  rw [hkey, ← String.toList_inj, hpath, String.toList_append, String.toList_ofList, eq_of_beq hbefore]

/-- **Identities, keys and routes determine each other.** Two parts make the identity that consists of them and no
other, and a text is read as an identity exactly when it is its key. Below one mount, whatever its path holds, different
identities have different routes: the mount path without one slash at its end, a slash and the key. An identity is found
at a path, after that base and a slash, exactly when that is its route. -/
theorem identity_key_route :
    (∀ ns name (identity : RouteIdentity),
      RouteIdentity.ofParts ns name = .ok identity ↔ identity.ns = ns ∧ identity.name = name) ∧
    (∀ identity : RouteIdentity, RouteIdentity.ofKey identity.key = .ok identity) ∧
    (∀ s (identity : RouteIdentity), RouteIdentity.ofKey s = .ok identity ↔ identity.key = s) ∧
    ∀ mount : Mount, Function.Injective mount.routeOf ∧
      ∃ base, (mount.path = base ++ "/" ∨ (mount.path = base ∧ base.toList.getLast? ≠ some '/')) ∧
        (∀ identity, mount.routeOf identity = base ++ "/" ++ identity.ns ++ "." ++ identity.name) ∧
        (∀ identity, identityBelow? base (mount.routeOf identity) = some identity) ∧
        ∀ path identity, identityBelow? base path = some identity ↔ mount.routeOf identity = path := by
  refine ⟨fun ns name identity => RouteIdentity.ofParts_eq_ok_iff, RouteIdentity.ofKey_key, fun s identity => ?_,
    fun mount => ⟨mount.routeOf_injective, ?_⟩⟩
  · constructor
    · exact RouteIdentity.key_of_ofKey
    · rintro rfl
      exact identity.ofKey_key
  · obtain ⟨base, hbase⟩ := mount.exists_base
    have hroute (identity : RouteIdentity) : mount.routeOf identity = base ++ "/" ++ identity.key := by
      rw [routeOf, dropTrailingSlash_eq hbase]
    refine ⟨base, hbase, fun identity => ?_, fun identity => ?_, fun path identity => ?_⟩
    · simp only [hroute, RouteIdentity.key, String.append_assoc]
    · rw [hroute, identityBelow?_append]
    · rw [hroute]
      constructor
      · exact eq_of_identityBelow?
      · rintro rfl
        exact identityBelow?_append base identity

/-- Dots and slashes of the mount path are not taken for those of the route. -/
example : (identityBelow? "/v1.0/a.b" "/v1.0/a.b/users.list").map (·.name) = some "list" ∧
    identityBelow? "/v1.0/a.b" "/v1.0/a.b/users" = none := by
  decide +kernel

end Mount

end TypedRpc
