import Mathlib.Data.List.Forall2
import Mathlib.Data.List.Induction
import TypedRpc.Http.Message
import TypedRpc.Proofs.Text.Ascii

/-!
# Headers that are set

Spellings of a name that differ in the case of ASCII letters are one name (`sameName_iff`). A header that is set becomes
the only one of its name, with the new spelling, and the headers of other names stay as they are (`named_set`,
`filter_set`). So the headers are a map from names after any number of settings, although they may hold several headers of one name before.
Main statement: `Response.setHeaders_last`.
-/

namespace TypedRpc.Http

/-! ## Headers of one name -/

/-- Names are one name if they agree character by character, where the two cases of an ASCII letter agree. -/
theorem sameName_iff {a b : String} :
    sameName a b = true ↔
      List.Forall₂ (fun c d => c = d ∨ (c.isUpper = true ∧ d.toNat = c.toNat + 32) ∨
        (d.isUpper = true ∧ c.toNat = d.toNat + 32)) a.toList b.toList := by
  simp only [← Text.toLower_eq_toLower_iff]
  rw [sameName, beq_iff_eq, foldName, foldName, ← List.forall₂_eq_eq_eq, List.forall₂_map_left_iff,
    List.forall₂_map_right_iff]

@[simp] theorem sameName_self (name : String) : sameName name name = true :=
  beq_self_eq_true _

/-- Headers of one name are the same header to any third name. -/
theorem sameName_congr {a b : String} (h : sameName a b = true) (name : String) : sameName a name = sameName b name := by
  rw [sameName, sameName, beq_iff_eq.mp h]

namespace Headers

/-- The headers of a name. -/
def named (headers : Headers) (name : String) : Headers :=
  headers.filter fun header => sameName header.1 name

theorem named_congr {a b : String} (h : sameName a b = true) (headers : Headers) : headers.named a = headers.named b := by
  simp only [named, sameName, beq_iff_eq.mp h]

theorem named_concat_of_eq {header : String × String} {name : String} (h : sameName header.1 name = true)
    (headers : Headers) : Headers.named (headers ++ [header]) name = headers.named name ++ [header] := by
  simp [named, List.filter_append, h]

theorem named_concat_of_ne {header : String × String} {name : String} (h : sameName header.1 name = false)
    (headers : Headers) : Headers.named (headers ++ [header]) name = headers.named name := by
  simp [named, List.filter_append, h]

/-- A look-up finds the first header of a name. -/
theorem get?_eq (headers : Headers) (name : String) : headers.get? name = (headers.named name).head?.map (·.2) := by
  rw [get?, named, List.head?_filter]

/-! ## Setting a header -/

/-- A header that has been set is the only one of its name. -/
theorem named_set (headers : Headers) (name value : String) : (headers.set name value).named name = [(name, value)] := by
  simp [named, set, List.filter_append, List.filter_filter]

theorem get?_set (headers : Headers) (name value : String) : (headers.set name value).get? name = some value := by
  rw [get?_eq, named_set]
  rfl

/-- A choice of headers that takes none of a name is the same after a header of that name has been set. -/
theorem filter_set {chosen : String × String → Bool} {name : String}
    (h : ∀ header, sameName header.1 name = true → chosen header = false) (headers : Headers) (value : String) :
    (headers.set name value).filter chosen = headers.filter chosen := by
  have hnew : [(name, value)].filter chosen = [] := by simp [h (name, value) (sameName_self name)]
  rw [set, List.filter_append, hnew, List.append_nil, List.filter_filter]
  refine List.filter_congr fun header _ => ?_
  cases hname : sameName header.1 name with
  | true => rw [h header hname, Bool.false_and]
  | false => rw [Bool.not_false, Bool.and_true]

theorem named_set_of_ne {name other : String} (h : sameName name other = false) (headers : Headers) (value : String) :
    (headers.set name value).named other = headers.named other :=
  filter_set (fun _ hheader => by rw [sameName_congr hheader, h]) headers value

end Headers

/-! ## Setting one header after the other -/

namespace Response

/-- The response after headers have been set, the first one first. -/
def setHeaders (response : Response) (settings : Headers) : Response :=
  settings.foldl (fun response setting => response.setHeader setting.1 setting.2) response

variable (response : Response) (settings : Headers)

theorem setHeaders_concat (setting : String × String) :
    response.setHeaders (settings ++ [setting]) = (response.setHeaders settings).setHeader setting.1 setting.2 := by
  rw [setHeaders, List.foldl_append]
  rfl

@[simp] theorem headers_setHeader (name value : String) :
    (response.setHeader name value).headers = response.headers.set name value := rfl

/-- Of each name the last setting is left, or what there was of it if it was never set. -/
theorem named_setHeaders (name : String) :
    (response.setHeaders settings).headers.named name =
      match (settings.named name).getLast? with
      | some setting => [setting]
      | none => response.headers.named name := by
  -- the last setting decides on its own name, and on no other
  induction settings using List.reverseRecOn with
  | nil => rfl
  | append_singleton earlier setting ih =>
    rw [setHeaders_concat, headers_setHeader]
    cases hname : sameName setting.1 name with
    | true =>
      rw [Headers.named_concat_of_eq hname, List.getLast?_concat, ← Headers.named_congr hname, Headers.named_set]
    | false =>
      rw [Headers.named_concat_of_ne hname, Headers.named_set_of_ne hname, ih]

/-- A choice of headers that takes none of a name that was set is the same as at first. -/
theorem filter_setHeaders {chosen : String × String → Bool}
    (h : ∀ setting ∈ settings, ∀ header, sameName header.1 setting.1 = true → chosen header = false) :
    (response.setHeaders settings).headers.filter chosen = response.headers.filter chosen := by
  induction settings using List.reverseRecOn with
  | nil => rfl
  | append_singleton earlier setting ih =>
    obtain ⟨hearlier, hsetting⟩ := List.forall_mem_append.mp h
    rw [setHeaders_concat, headers_setHeader, Headers.filter_set (hsetting setting List.mem_cons_self), ih hearlier]

/-- Nothing else of a response changes. -/
theorem status_body_setHeaders :
    (response.setHeaders settings).status = response.status ∧ (response.setHeaders settings).body = response.body := by
  induction settings using List.reverseRecOn with
  | nil => exact ⟨rfl, rfl⟩
  | append_singleton earlier setting ih =>
    rw [setHeaders_concat]
    exact ih

/-- **Headers are a map from names, whatever the case of their letters.** After any number of settings of headers, a
look-up finds the value that the last setting of the name gave, or the first header that the response had of a name that
was not set. Of a name that was set there is one header, which is the last setting of it as it was spelled. The headers
of names that were not set are all there, in the same order, and so are the status and the body. -/
theorem setHeaders_last :
    let after := response.setHeaders settings
    (∀ name, after.headers.get? name =
      match (settings.named name).getLast? with
      | some setting => some setting.2
      | none => response.headers.get? name) ∧
    (∀ name, after.headers.named name =
      match (settings.named name).getLast? with
      | some setting => [setting]
      | none => response.headers.named name) ∧
    (after.headers.filter fun header => (settings.named header.1).isEmpty) =
      (response.headers.filter fun header => (settings.named header.1).isEmpty) ∧
    after.status = response.status ∧ after.body = response.body := by
  intro after
  refine ⟨fun name => ?_, named_setHeaders response settings, ?_, status_body_setHeaders response settings⟩
  · rw [Headers.get?_eq, named_setHeaders, Headers.get?_eq]
    cases (settings.named name).getLast? <;> rfl
  · refine filter_setHeaders response settings fun setting hsetting header hheader => ?_
    have hmem : setting ∈ settings.named header.1 := by
      refine List.mem_filter.mpr ⟨hsetting, ?_⟩
      rw [← sameName_congr hheader, sameName_self]
    exact List.isEmpty_eq_false_iff_exists_mem.mpr ⟨setting, hmem⟩

example : ((⟨200, [("X-Tag", "a"), ("Via", "b"), ("x-tag", "c")], .null⟩ : Response).setHeaders
    [("X-TAG", "d"), ("ETag", "e"), ("x-Tag", "f")]).headers = [("Via", "b"), ("ETag", "e"), ("x-Tag", "f")] := by
  decide

end Response

end TypedRpc.Http
