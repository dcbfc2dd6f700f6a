import TypedRpc.Proofs.Server.Identified
import TypedRpc.Proofs.Service.Session

/-!
# Which handlers a request can reach

The path of a request ends at the first question mark of its target. A path without question marks is that of the
target that consists of it, whatever query follows; a path with one is that of no target at all. Keys may hold question
marks, so a handler may be mounted where no request gets. Main statement: `registered_reached`.
-/

namespace TypedRpc

open TypedRpc.Http TypedRpc.Text

/-! ## Paths of targets -/

namespace Server

/-- No path holds a question mark. -/
theorem notMem_pathOf (target : String) : '?' ∉ (pathOf target).toList := by
  rw [pathOf_eq, String.toList_ofList]
  exact fun hmem => absurd (List.mem_takeWhile_imp hmem) (by decide)

/-- A path without question marks is that of the target that consists of it. -/
theorem pathOf_of_notMem {path : String} (h : '?' ∉ path.toList) : pathOf path = path := by
  rw [pathOf_eq, takeWhile_of_notMem h, String.ofList_toList]

/-- A query is no part of the path. -/
theorem pathOf_append {path : String} (h : '?' ∉ path.toList) (query : String) : pathOf (path ++ "?" ++ query) = path := by
  have htarget : (path ++ "?" ++ query).toList = path.toList ++ '?' :: query.toList := by simp
  rw [pathOf, htarget, splitFirst_append h]
  exact String.ofList_toList

end Server

/-! ## Paths of handlers -/

namespace Mount

theorem mem_of_mem_dropTrailingSlash {path : String} {c : Char} (h : c ∈ (dropTrailingSlash path).toList) :
    c ∈ path.toList := by
  unfold dropTrailingSlash at h
  split at h
  next rest hreverse =>
    rw [← List.mem_reverse, hreverse]
    exact List.mem_cons_of_mem _ (by simpa using h)
  next => exact h

/-- A question mark in the path of a handler below a mount without one is one in its key. -/
theorem mem_routeOf_iff {mount : Mount} (h : '?' ∉ mount.path.toList) (identity : RouteIdentity) :
    '?' ∈ (mount.routeOf identity).toList ↔ '?' ∈ identity.key.toList := by
  have hmount : '?' ∉ (dropTrailingSlash mount.path).toList := fun hmem => h (mem_of_mem_dropTrailingSlash hmem)
  simp [routeOf, hmount]

end Mount

namespace Server.HttpServer

open TypedRpc.Service

variable {server : HttpServer} {request : RawRequest}

/-! ## Reaching a handler -/

/-- A handler that answers a request is at the path of its target. -/
theorem path_of_calls {call : Request} (h : server.Calls request call) : call.path = pathOf request.target := by
  -- handlers that answer with one status at the path of the call, and with another one everywhere else
  let handlerAt (status : Nat) : String → Route := fun path _ _ =>
    (⟨if path = call.path then status else 0, [], .null⟩, [])
  have hstatus (status : Nat) :
      ({ server with router := server.router.rewire (handlerAt status) }.answer request default).1.status = status := by
    rw [h, identify_status]
    exact if_pos rfl
  rcases handle_cases server request with ⟨refusal, -, hrefused⟩ | ⟨other, hother, -, hpath, hcalled⟩
  · -- a refusal has the same status whatever handlers are mounted
    have hrefusal (status : Nat) : refusal.status = status := by
      rw [← hstatus status, answer, hrefused _ (Router.paths_rewire ..)]
      exact (identify_status ..).symm
    exact absurd ((hrefusal 0).symm.trans (hrefusal 1)) (by decide)
  · have hone := hstatus 1
    rw [answer, hcalled _ _ (Router.route?_rewire hpath (handlerAt 1))] at hone
    have hsame : other.path = call.path := by
      by_contra hne
      exact absurd ((identify_status ..).symm.trans hone) (by simp [hne])
    rw [← hsame, hother]

/-- **Which registered handlers are reached.** Below a mount without a question mark, a registered handler whose key
holds none is reached at its path: a request that is posted there, whatever query follows, with a body within the limit,
is answered by it. A registered handler whose key holds a question mark is reached by no request. -/
theorem registered_reached (mount : Mount) (slots : SlotTable) (steps : List Step) (workers maxBodyBytes : Nat)
    (hmount : '?' ∉ mount.path.toList) (hmax : maxBodyBytes < Nat.pow 2 64) :
    let server : HttpServer := ⟨(session (.empty mount slots) steps).2.router, workers, maxBodyBytes⟩
    ∀ offer ∈ registered steps (session (.empty mount slots) steps).1,
      let path := mount.routeOf offer.identity
      ('?' ∉ offer.identity.key.toList → ∀ request : RawRequest, request.method = "POST" →
        (request.target = path ∨ ∃ query, request.target = path ++ "?" ++ query) →
        request.body.length ≤ maxBodyBytes → request.Truthful →
          server.Calls request ⟨path, request.headers, request.body⟩ ∧
          ∀ new, server.answer request new = offer.route mount ⟨path, request.headers, request.body⟩ new) ∧
      ('?' ∈ offer.identity.key.toList → ∀ request call, server.Calls request call → call.path ≠ path) := by
  intro server offer hoffer path
  obtain ⟨hoffers, hservice⟩ := session_state mount slots steps
  have hkey : '?' ∈ path.toList ↔ '?' ∈ offer.identity.key.toList := Mount.mem_routeOf_iff hmount offer.identity
  refine ⟨fun hnone request hmethod htarget hsize htold => ?_, fun hsome request call hcalls heq => ?_⟩
  · have hpath : pathOf request.target = path := by
      rcases htarget with heq | ⟨query, heq⟩
      · rw [heq, pathOf_of_notMem (mt hkey.mp hnone)]
      · rw [heq, pathOf_append (mt hkey.mp hnone)]
    have hrouter : server.router = (ofOffers mount slots (registered steps _)).router :=
      congrArg Service.router hservice
    have hroute : server.router.route? path = some (offer.route mount) := by
      rw [hrouter]
      exact route?_of_mem (hoffers ▸ accepted_paths_nodup mount steps) hoffer
    have hmounted : path ∈ server.router.paths := by
      rw [hrouter, paths_ofOffers]
      exact List.mem_map_of_mem hoffer
    have hsized : server.Sized request := ⟨hmax, .inr (Nat.lt_of_le_of_lt hsize hmax)⟩
    refine ⟨(calls_iff hsized htold).mpr ⟨hpath.symm ▸ hmounted, hmethod, hsize, by rw [hpath]⟩, fun new => ?_⟩
    rw [answer_of_mounted hsized htold (hpath.symm ▸ hroute), if_neg (not_not.mpr hmethod),
      if_neg (Nat.not_lt_of_le hsize), hpath]
    exact Prod.ext (identify_route ..) rfl
  · have hmem : '?' ∈ call.path.toList := heq ▸ hkey.mpr hsome
    exact notMem_pathOf request.target (path_of_calls hcalls ▸ hmem)

/-- A question mark in the query, and the whole of what is posted. -/
theorem registered_reached_query :
    let offer : Offer := ⟨⟨"files", "put", by decide, by decide⟩, ⟨.unknown, .number⟩,
      ⟨fun body => .ok body.length, fun _ size => .value size, fun size => .ok (.integer size)⟩⟩
    let mount : Mount := ⟨"/api/", false⟩
    let steps : List Step := [.register offer]
    let server : HttpServer := ⟨(session (.empty mount []) steps).2.router, 1, 3⟩
    let request : RawRequest := ⟨"POST", "/api/files.put?really?", [], none, [1, 2, 3]⟩
    '?' ∉ mount.path.toList ∧ 3 < Nat.pow 2 64 ∧ offer ∈ registered steps (session (.empty mount []) steps).1 ∧
    (server.Calls request ⟨"/api/files.put", [], [1, 2, 3]⟩ ∧ (server.answer request ⟨0⟩).1.body = .integer 3) := by
  intro offer mount steps server request
  have hmount : '?' ∉ mount.path.toList := by decide
  have hoffer : offer ∈ registered steps (session (.empty mount []) steps).1 := List.mem_singleton_self offer
  obtain ⟨hreached, -⟩ := registered_reached mount [] steps 1 3 hmount (by decide) offer hoffer
  have htarget : request.target = mount.routeOf offer.identity ++ "?" ++ "really?" := by decide
  obtain ⟨hcalls, hanswer⟩ := hreached (by decide) request rfl (.inr ⟨_, htarget⟩) (by decide) (.inl rfl)
  have hpath : mount.routeOf offer.identity = "/api/files.put" := by decide
  rw [hpath] at hcalls
  exact ⟨hmount, by decide, hoffer, hcalls, by rw [hanswer]; rfl⟩

/-- A handler that is registered with a question mark in its name, and a request to its path. -/
theorem registered_unreached :
    let offer : Offer := ⟨⟨"n", "a?b", by decide, by decide⟩, ⟨.unknown, .string⟩,
      ⟨fun _ => .ok (), fun _ _ => .value "done", fun text => .ok (.string text)⟩⟩
    let steps : List Step := [.register offer]
    let server : HttpServer := ⟨(session (.empty .root []) steps).2.router, 4, 1024⟩
    let request : RawRequest := ⟨"POST", Mount.root.routeOf offer.identity, [], none, []⟩
    offer ∈ registered steps (session (.empty .root []) steps).1 ∧ '?' ∉ Mount.root.path.toList ∧
    request.body.length ≤ server.maxBodyBytes ∧
    (server.answer request ⟨0⟩).1.status = 404 ∧
    ¬ server.Calls request ⟨Mount.root.routeOf offer.identity, [], []⟩ := by
  intro offer steps server request
  refine ⟨List.mem_singleton_self offer, by decide, by decide, by decide +kernel, fun hcalls => ?_⟩
  have hpath := path_of_calls hcalls
  exact absurd hpath (by decide +kernel)

end Server.HttpServer

end TypedRpc
