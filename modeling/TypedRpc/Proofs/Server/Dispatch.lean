import Mathlib.Data.List.TakeWhile
import TypedRpc.Proofs.Service.Session
import TypedRpc.Server.HttpServer

/-!
# Which requests reach a handler

A request is refused for the first reason that there is: nothing is mounted at its path, it is not posted, its body is
too large. The size is looked at twice, before the body is read and after it, and what is read ends one byte behind
the limit; the two tests together are one comparison of the whole body with the limit (`handle_eq`). Main statement:
`answer_exact`.
-/

namespace TypedRpc

open TypedRpc.Http TypedRpc.Text

/-! ## The path of a target -/

/-- A text is cut at the first character that could be the separator. -/
theorem Text.splitFirst_eq (c : Char) (text : List Char) :
    splitFirst c text =
      if c ∈ text then some (text.takeWhile (· != c), (text.dropWhile (· != c)).drop 1) else none := by
  induction text with
  | nil => rfl
  | cons a rest ih =>
    by_cases ha : a = c
    · simp [splitFirst, ha]
    · by_cases hc : c ∈ rest <;> simp [splitFirst, ha, Ne.symm ha, ih, hc]

/-- A text without the separator is not cut. -/
theorem Text.takeWhile_of_notMem {c : Char} {text : List Char} (h : c ∉ text) : text.takeWhile (· != c) = text := by
  refine List.takeWhile_eq_self_iff.mpr fun d hd => ?_
  simpa using fun heq : d = c => h (heq ▸ hd)

namespace Server

theorem pathOf_eq (target : String) : pathOf target = String.ofList (target.toList.takeWhile (· != '?')) := by
  rw [pathOf, splitFirst_eq]
  by_cases h : '?' ∈ target.toList
  · rw [if_pos h]
  · -- nothing ends the path before the target does
    rw [if_neg h, takeWhile_of_notMem h, String.ofList_toList]

end Server

/-! ## Routers with other handlers -/

/-- The router with other handlers at the same paths. -/
def Router.rewire (router : Router) (handlerAt : String → Route) : Router :=
  ⟨router.routes.map fun entry => (entry.1, handlerAt entry.1)⟩

theorem Router.route?_eq_none {router : Router} {path : String} :
    router.route? path = none ↔ path ∉ router.paths :=
  Compiler.lookup_eq_none_iff

@[simp] theorem Router.paths_rewire (router : Router) (handlerAt : String → Route) :
    (router.rewire handlerAt).paths = router.paths := by
  simp [rewire, paths]

theorem Router.route?_rewire {router : Router} {path : String} (h : path ∈ router.paths)
    (handlerAt : String → Route) : (router.rewire handlerAt).route? path = some (handlerAt path) := by
  rw [← paths_rewire router handlerAt] at h
  obtain ⟨route, hroute⟩ := Compiler.exists_lookup_of_mem h
  obtain ⟨entry, -, heq⟩ := List.mem_map.mp (Compiler.mem_of_lookup hroute)
  obtain ⟨rfl, rfl⟩ := Prod.mk.inj heq
  exact hroute

namespace Server

/-! ## One comparison with the limit -/

/-- A length that is told is that of the body. -/
def RawRequest.Truthful (request : RawRequest) : Prop :=
  request.declaredLength = none ∨ request.declaredLength = some request.body.length

namespace HttpServer

variable {server : HttpServer} {request : RawRequest}

/-- Sizes are numbers of 64 bits. With the largest of them as its limit, a server gets no body that is longer. -/
def Sized (server : HttpServer) (request : RawRequest) : Prop :=
  server.maxBodyBytes < Nat.pow 2 64 ∧
    (server.maxBodyBytes + 1 < Nat.pow 2 64 ∨ request.body.length < Nat.pow 2 64)

/-- A body within the limit is read to its end, and more than the limit is read of any other. -/
theorem length_read (h : server.Sized request) :
    (request.body.length ≤ server.maxBodyBytes → request.body.take server.readLimit = request.body) ∧
    (server.maxBodyBytes < request.body.length →
      server.maxBodyBytes < (request.body.take server.readLimit).length) := by
  have hpow : Nat.pow 2 64 = 18446744073709551616 := rfl
  obtain ⟨hmax, hsize⟩ := h
  rw [hpow] at hmax hsize
  have hlimit : server.readLimit = min (server.maxBodyBytes + 1) 18446744073709551615 := rfl
  refine ⟨fun hfits => List.take_of_length_le ?_, fun hlarge => ?_⟩
  · rw [hlimit]
    omega
  · rw [List.length_take, hlimit]
    omega

/-- What comes of a request, without the two tests of its size. -/
theorem handle_eq (hsized : server.Sized request) (htold : request.Truthful) (new : RequestId) :
    server.handle request new =
      match server.router.route? (pathOf request.target) with
      | none => (notFound (pathOf request.target), [])
      | some route =>
        if request.method ≠ "POST" then (methodNotAllowed, [])
        else if server.maxBodyBytes < request.body.length then (tooLarge server.maxBodyBytes, [])
        else route ⟨pathOf request.target, request.headers, request.body⟩ new := by
  obtain ⟨hfits, hlarge⟩ := length_read hsized
  unfold handle
  dsimp only
  cases server.router.route? (pathOf request.target) with
  | none => rfl
  | some route =>
    dsimp only
    split
    · rfl
    · by_cases hsize : server.maxBodyBytes < request.body.length
      · -- whether the first test sees it or only the second one, the answer is the same
        rw [if_pos (hlarge hsize), if_pos hsize, ite_self]
      · have hread := hfits (Nat.le_of_not_lt hsize)
        have hdeclared : request.declaredLength.any (server.maxBodyBytes < ·) = false := by
          rcases htold with hnone | hsome
          · simp [hnone]
          · simpa [hsome] using hsize
        rw [hdeclared, if_neg Bool.false_ne_true, hread]

/-- A request is refused, whatever handlers are mounted, or the one at its path gets it. -/
theorem handle_cases (server : HttpServer) (request : RawRequest) :
    (∃ refusal : Response, refusal.headers.get? RequestId.header = none ∧
      ∀ router : Router, router.paths = server.router.paths → ∀ new,
        { server with router }.handle request new = (refusal, [])) ∨
    ∃ call : Request, call.path = pathOf request.target ∧ call.headers = request.headers ∧
      call.path ∈ server.router.paths ∧
      ∀ (router : Router) (route : Route), router.route? call.path = some route → ∀ new,
        { server with router }.handle request new = route call new := by
  by_cases hpath : pathOf request.target ∈ server.router.paths
  · have hmounted (router : Router) (hpaths : router.paths = server.router.paths) :
        ∃ route, router.route? (pathOf request.target) = some route := by
      rw [← hpaths] at hpath
      exact Compiler.exists_lookup_of_mem hpath
    -- with a handler at the path, the tests do not depend on it
    by_cases hmethod : request.method = "POST"
    · by_cases hdeclared : request.declaredLength.any (server.maxBodyBytes < ·) = true
      · refine .inl ⟨tooLarge server.maxBodyBytes, rfl, fun router hpaths new => ?_⟩
        obtain ⟨route, hroute⟩ := hmounted router hpaths
        simp only [handle, hroute, ne_eq, if_neg (not_not.mpr hmethod), if_pos hdeclared]
      · by_cases hread : server.maxBodyBytes < (request.body.take server.readLimit).length
        · refine .inl ⟨tooLarge server.maxBodyBytes, rfl, fun router hpaths new => ?_⟩
          obtain ⟨route, hroute⟩ := hmounted router hpaths
          simp only [handle, hroute, ne_eq, if_neg (not_not.mpr hmethod), if_neg hdeclared]
          exact if_pos hread
        · refine .inr ⟨⟨pathOf request.target, request.headers, request.body.take server.readLimit⟩, rfl, rfl, hpath,
            fun router route hroute new => ?_⟩
          simp only [handle, hroute, ne_eq, if_neg (not_not.mpr hmethod), if_neg hdeclared]
          exact if_neg hread
    · refine .inl ⟨methodNotAllowed, by decide, fun router hpaths new => ?_⟩
      obtain ⟨route, hroute⟩ := hmounted router hpaths
      simp only [handle, hroute, ne_eq, if_pos hmethod]
  · refine .inl ⟨notFound (pathOf request.target), rfl, fun router hpaths new => ?_⟩
    rw [← hpaths] at hpath
    simp only [handle, Router.route?_eq_none.mpr hpath]

/-! ## The handler that answers -/

/-- The request is answered by one call of the handler at the path of the call: whatever handlers are mounted, the
answer is that of the call, but for the id of the request, and the observer is told what the call tells it. -/
def Calls (server : HttpServer) (request : RawRequest) (call : Request) : Prop :=
  ∀ (handlerAt : String → Route) (new : RequestId),
    { server with router := server.router.rewire handlerAt }.answer request new =
      (identify request.headers new (handlerAt call.path call new).1, (handlerAt call.path call new).2)

@[simp] theorem identify_status (headers : Headers) (new : RequestId) (response : Response) :
    (identify headers new response).status = response.status := by
  unfold identify
  split <;> rfl

/-- The header that names the right method stays in front of the id. -/
theorem identify_methodNotAllowed (headers : Headers) (new : RequestId) :
    (identify headers new methodNotAllowed).headers =
      [("Allow", "POST"), (RequestId.header, (RequestId.ofHeaders headers new).print)] :=
  rfl

section

variable (hsized : server.Sized request) (htold : request.Truthful)

include hsized htold

theorem answer_of_notMem (h : pathOf request.target ∉ server.router.paths) (new : RequestId) :
    server.answer request new = (identify request.headers new (notFound (pathOf request.target)), []) := by
  rw [answer, handle_eq hsized htold, Router.route?_eq_none.mpr h]

theorem answer_of_mounted {route : Route} (h : server.router.route? (pathOf request.target) = some route)
    (new : RequestId) :
    server.answer request new =
      if request.method ≠ "POST" then (identify request.headers new methodNotAllowed, [])
      else if server.maxBodyBytes < request.body.length then
        (identify request.headers new (tooLarge server.maxBodyBytes), [])
      else
        let answer := route ⟨pathOf request.target, request.headers, request.body⟩ new
        (identify request.headers new answer.1, answer.2) := by
  rw [answer, handle_eq hsized htold, h]
  dsimp only
  split
  · rfl
  · split <;> rfl

theorem le_status_of_refused
    (h : ¬ (pathOf request.target ∈ server.router.paths ∧ request.method = "POST" ∧
      request.body.length ≤ server.maxBodyBytes)) (new : RequestId) :
    404 ≤ (server.answer request new).1.status := by
  by_cases hpath : pathOf request.target ∈ server.router.paths
  · obtain ⟨route, hroute⟩ := Compiler.exists_lookup_of_mem hpath
    rw [answer_of_mounted hsized htold hroute]
    by_cases hmethod : request.method = "POST"
    · have hsize : server.maxBodyBytes < request.body.length :=
        Nat.lt_of_not_le fun hle => h ⟨hpath, hmethod, hle⟩
      rw [if_neg (not_not.mpr hmethod), if_pos hsize, identify_status]
      exact Nat.le_add_left 404 9
    · rw [if_pos hmethod, identify_status]
      exact Nat.le_add_left 404 1
  · rw [answer_of_notMem hsized htold hpath, identify_status]
    exact Nat.le_refl 404

/-- A request that reaches a handler reaches the one at its path, as it came. -/
theorem calls_iff {call : Request} :
    server.Calls request call ↔
      pathOf request.target ∈ server.router.paths ∧ request.method = "POST" ∧
        request.body.length ≤ server.maxBodyBytes ∧
        call = ⟨pathOf request.target, request.headers, request.body⟩ := by
  constructor
  · intro hcalls
    -- handlers that answer this call as no refusal does, and every other call in yet another way
    let handlerAt : String → Route := fun path other _ =>
      (⟨open Classical in if path = call.path ∧ other = call then 1 else 0, [], .null⟩, [])
    have hstatus := congrArg (·.1.status) (hcalls handlerAt default)
    have hone : (handlerAt call.path call default).1.status = 1 := if_pos ⟨rfl, rfl⟩
    simp only [identify_status, hone] at hstatus
    have hsized' : { server with router := server.router.rewire handlerAt }.Sized request := hsized
    have hreached := of_not_not fun hrefused => absurd (le_status_of_refused hsized' htold hrefused default)
      (hstatus ▸ by decide)
    rw [Router.paths_rewire] at hreached
    obtain ⟨hpath, hmethod, hsize⟩ := hreached
    rw [answer_of_mounted hsized' htold (Router.route?_rewire hpath handlerAt) default,
      if_neg (not_not.mpr hmethod), if_neg (Nat.not_lt_of_le hsize), identify_status] at hstatus
    have hcall : pathOf request.target = call.path ∧
        ⟨pathOf request.target, request.headers, request.body⟩ = call :=
      of_not_not fun hother => absurd ((if_neg hother).symm.trans hstatus) (by decide)
    exact ⟨hpath, hmethod, hsize, hcall.2.symm⟩
  · rintro ⟨hpath, hmethod, hsize, rfl⟩ handlerAt new
    have hsized' : { server with router := server.router.rewire handlerAt }.Sized request := hsized
    rw [answer_of_mounted hsized' htold (Router.route?_rewire hpath handlerAt) new, if_neg (not_not.mpr hmethod),
      if_neg (Nat.not_lt_of_le hsize)]

end

/-- **Dispatch is exact.** With the path that ends at the first question mark, a request reaches a handler if and only
if one is mounted there, it is posted, and its body is within the limit; the handler gets the path, the headers and the
whole body. Otherwise the request is refused for the first reason that there is, in this order, and the observer is
told nothing. -/
theorem answer_exact (hsized : server.Sized request) (htold : request.Truthful) :
    let path := String.ofList (request.target.toList.takeWhile (· != '?'))
    (∀ call, server.Calls request call ↔
      path ∈ server.router.paths ∧ request.method = "POST" ∧ request.body.length ≤ server.maxBodyBytes ∧
        call = ⟨path, request.headers, request.body⟩) ∧
    ∀ new response observations, server.answer request new = (response, observations) →
      (∀ route, server.router.route? path = some route → request.method = "POST" →
        request.body.length ≤ server.maxBodyBytes →
          response = identify request.headers new (route ⟨path, request.headers, request.body⟩ new).1 ∧
          observations = (route ⟨path, request.headers, request.body⟩ new).2) ∧
      (path ∉ server.router.paths → response.status = 404 ∧ observations = []) ∧
      (path ∈ server.router.paths → request.method ≠ "POST" →
        response.status = 405 ∧ ("Allow", "POST") ∈ response.headers ∧ observations = []) ∧
      (path ∈ server.router.paths → request.method = "POST" → server.maxBodyBytes < request.body.length →
        response.status = 413 ∧ observations = []) := by
  rw [← pathOf_eq]
  refine ⟨fun call => calls_iff hsized htold, fun new response observations hanswer => ⟨?_, ?_, ?_, ?_⟩⟩
  · intro route hroute hmethod hsize
    rw [answer_of_mounted hsized htold hroute, if_neg (not_not.mpr hmethod), if_neg (Nat.not_lt_of_le hsize)] at hanswer
    obtain ⟨rfl, rfl⟩ := Prod.mk.inj hanswer
    exact ⟨rfl, rfl⟩
  · intro hpath
    rw [answer_of_notMem hsized htold hpath] at hanswer
    obtain ⟨rfl, rfl⟩ := Prod.mk.inj hanswer
    exact ⟨identify_status .., rfl⟩
  · intro hpath hmethod
    obtain ⟨route, hroute⟩ := Compiler.exists_lookup_of_mem hpath
    rw [answer_of_mounted hsized htold hroute, if_pos hmethod] at hanswer
    obtain ⟨rfl, rfl⟩ := Prod.mk.inj hanswer
    refine ⟨identify_status .., ?_, rfl⟩
    rw [identify_methodNotAllowed]
    exact List.mem_cons_self
  · intro hpath hmethod hsize
    obtain ⟨route, hroute⟩ := Compiler.exists_lookup_of_mem hpath
    rw [answer_of_mounted hsized htold hroute, if_neg (not_not.mpr hmethod), if_pos hsize] at hanswer
    obtain ⟨rfl, rfl⟩ := Prod.mk.inj hanswer
    exact ⟨identify_status .., rfl⟩

/-- A body of the largest size that is accepted, whose length is not told, and one that has a byte more. -/
theorem answer_exact_limit :
    let echo : Route := fun request _ => (.json 200 (.integer request.body.length), [])
    let server : HttpServer := ⟨⟨[("/files.put", echo)]⟩, 1, 3⟩
    let fits : RawRequest := ⟨"POST", "/files.put?name=a", [], none, [1, 2, 3]⟩
    let large : RawRequest := ⟨"POST", "/files.put", [], some 4, [1, 2, 3, 4]⟩
    (server.Sized fits ∧ fits.Truthful ∧ server.Calls fits ⟨"/files.put", [], [1, 2, 3]⟩) ∧
    (server.Sized large ∧ large.Truthful ∧ ∀ new, (server.answer large new).1.status = 413) := by
  intro echo server fits large
  have hfits : server.Sized fits ∧ fits.Truthful := ⟨⟨by decide, .inl (by decide)⟩, .inl rfl⟩
  have hlarge : server.Sized large ∧ large.Truthful := ⟨⟨by decide, .inl (by decide)⟩, .inr rfl⟩
  have hpath : String.ofList (fits.target.toList.takeWhile (· != '?')) = "/files.put" := by decide
  have hpath' : String.ofList (large.target.toList.takeWhile (· != '?')) = "/files.put" := by decide
  refine ⟨⟨hfits.1, hfits.2, ?_⟩, hlarge.1, hlarge.2, fun new => ?_⟩
  · refine ((answer_exact hfits.1 hfits.2).1 _).mpr ⟨?_, rfl, by decide, ?_⟩
    · rw [hpath]
      exact List.mem_singleton_self _
    · rw [hpath]
  · have hmounted : String.ofList (large.target.toList.takeWhile (· != '?')) ∈ server.router.paths := by
      rw [hpath']
      exact List.mem_singleton_self _
    exact (((answer_exact hlarge.1 hlarge.2).2 new _ _ rfl).2.2.2 hmounted rfl (by decide)).1

end HttpServer

end Server

end TypedRpc
