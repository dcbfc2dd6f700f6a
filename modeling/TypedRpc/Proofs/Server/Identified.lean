import TypedRpc.Proofs.Handler.Answer
import TypedRpc.Proofs.Http.RequestId
import TypedRpc.Proofs.KeyedList
import TypedRpc.Proofs.Server.Dispatch
import TypedRpc.Registry

/-!
# One id for each request

A handler that a registry has mounted gives its response the id of the request, and the server gives it to a response
without one, so whichever of them answers, the id is there once. Main statement: `answer_identified`.
-/

namespace TypedRpc

open TypedRpc.Http

/-! ## Routers that registries fill -/

/-- A router on which nothing but registries has mounted handlers. -/
inductive Router.Filled : Router → Prop
  | empty : Filled .empty
  | register {α β : Type} {registry registry' : Registry} {router router' : Router} {identity : RouteIdentity}
      {signature : Signature} {handler : Handler α β} {registration : Registration} : Filled router →
      registry.register router identity signature handler = .ok (registration, registry', router') → Filled router'

namespace Router

/-- Mounting a handler changes what is at its path, and nothing else. -/
theorem lookup_setRoute (path other : String) (route : Route) (routes : List (String × Route)) :
    (setRoute path route routes).lookup other = if other = path then some route else routes.lookup other := by
  induction routes with
  | nil => exact lookup_cons_ite (path, route) [] other
  | cons entry routes ih =>
    rw [setRoute]
    by_cases hfirst : entry.1 = path
    · rw [if_pos hfirst, lookup_cons_ite, lookup_cons_ite, hfirst]
      split <;> rfl
    · rw [if_neg hfirst, lookup_cons_ite, lookup_cons_ite, ih]
      by_cases h : other = path
      · simp [h, Ne.symm hfirst]
      · simp [h]

theorem route?_mount (router : Router) (path other : String) (route : Route) :
    (router.mount path route).route? other = if other = path then some route else router.route? other :=
  lookup_setRoute path other route router.routes

/-- What registries have mounted are handlers. -/
theorem Filled.exists_handler {router : Router} (h : router.Filled) {path : String} {route : Route}
    (hroute : router.route? path = some route) :
    ∃ (α β : Type) (handler : Handler α β) (identity : RouteIdentity) (observed : Bool),
      route = handler.route identity observed := by
  induction h with
  | empty => exact absurd hroute.symm (Option.some_ne_none route)
  | register _ hregister ih =>
    rw [Registry.register] at hregister
    split at hregister
    · cases hregister
    · cases hregister
      -- the path is that of the new handler, or what is there was there before
      rw [route?_mount] at hroute
      split at hroute
      · exact ⟨_, _, _, _, _, (Option.some.inj hroute).symm⟩
      · exact ih hroute

end Router

namespace Server

/-! ## The header on the wire -/

/-- A header that is not the type of the content stays where it is when others are added. -/
theorem named_addHeader {name : String} (hname : sameName "Content-Type" name = false) (sent : Headers)
    (header : String × String) : (addHeader sent header).named name = Headers.named (sent ++ [header]) name := by
  have hother {other : String} (h : sameName other "Content-Type" = true) : sameName other name = false := by
    rwa [sameName_congr h]
  rw [addHeader]
  by_cases hcontent : sameName header.1 "Content-Type" = true
  · rw [if_pos hcontent, Headers.named_concat_of_ne (hother hcontent)]
    -- what is replaced in the headers before are values of headers of another name
    induction sent with
    | nil => rfl
    | cons entry sent ih =>
      rw [Headers.named, Headers.named] at ih ⊢
      by_cases hentry : sameName entry.1 "Content-Type" = true
      · simp [hentry, hother hentry, ih]
      · simp [hentry, List.filter_cons, ih]
  · rw [if_neg hcontent]

theorem named_foldl_addHeader {name : String} (hname : sameName "Content-Type" name = false) (headers sent : Headers) :
    (headers.foldl addHeader sent).named name = Headers.named (sent ++ headers) name := by
  induction headers generalizing sent with
  | nil => rw [List.append_nil, List.foldl_nil]
  | cons header headers ih =>
    have hadded := named_addHeader hname sent header
    simp only [Headers.named, List.filter_append] at ih hadded ⊢
    rw [List.foldl_cons, ih, hadded, List.append_assoc, ← List.filter_append, List.singleton_append]

/-- A header that has been set is sent, as the only one of its name. -/
theorem named_wireHeaders_set {name value : String} (hname : sameName "Content-Type" name = false)
    (hsendable : isSendable (name, value) = true) (headers : Headers) :
    (wireHeaders (headers.set name value)).named name = [(name, value)] := by
  have hset := headers.named_set name value
  rw [wireHeaders, named_foldl_addHeader hname]
  rw [Headers.named] at hset ⊢
  rw [List.filter_append, List.filter_cons_of_neg (by simp [hname]), List.filter_nil, List.nil_append,
    List.filter_comm, hset, List.filter_cons_of_pos hsendable, List.filter_nil]

/-- The text of an id is plain, and its header is none about the connection. -/
theorem isSendable_requestId (id : RequestId) : isSendable (RequestId.header, id.print) = true := by
  have hname : isAscii RequestId.header = true := by decide
  have hvalue : isAscii id.print = true := by
    refine List.all_eq_true.mpr fun c hc => decide_eq_true ?_
    exact (RequestId.plain_of_mem_alphabet (RequestId.mem_alphabet_of_mem_print hc)).1
  have hconnection : connectionHeaders.any (sameName RequestId.header) = false := by decide
  rw [isSendable, hname, hvalue, hconnection]
  rfl

namespace HttpServer

variable {server : HttpServer}

/-! ## Whoever answers -/

/-- A response that has an id keeps it. -/
theorem identify_setHeader (headers : Headers) (new : RequestId) (response : Response) (value : String) :
    identify headers new (response.setHeader RequestId.header value) = response.setHeader RequestId.header value := by
  rw [identify, Response.setHeader, Headers.get?_set]

/-- The response of a handler is sent as it is. -/
theorem identify_route {α β : Type} (handler : Handler α β) (identity : RouteIdentity) (observed : Bool)
    (call : Request) (headers : Headers) (new : RequestId) :
    identify headers new (handler.route identity observed call new).1 =
      (handler.route identity observed call new).1 := by
  obtain ⟨response, hresponse⟩ := handler.exists_setHeader_route identity observed call new
  rw [hresponse, identify_setHeader]

/-- A request is refused, whatever handlers are mounted, or the answer is that of the handler at its path. -/
theorem answer_cases (hfilled : server.router.Filled) (request : RawRequest) (new : RequestId) :
    (∃ refusal : Response, ∀ router : Router, router.paths = server.router.paths →
      { server with router }.answer request new =
        (refusal.setHeader RequestId.header (RequestId.ofHeaders request.headers new).print, [])) ∨
    ∃ (α β : Type) (handler : Handler α β) (identity : RouteIdentity) (observed : Bool) (call : Request),
      server.Calls request call ∧ server.router.route? call.path = some (handler.route identity observed) ∧
      call.headers = request.headers ∧ server.answer request new = handler.route identity observed call new := by
  rcases handle_cases server request with ⟨refusal, hheader, hrefused⟩ | ⟨call, -, hheaders, hpath, hcalled⟩
  · refine .inl ⟨refusal, fun router hpaths => ?_⟩
    simp only [answer, hrefused router hpaths, identify, hheader]
  · obtain ⟨route, hroute⟩ := Compiler.exists_lookup_of_mem hpath
    obtain ⟨α, β, handler, identity, observed, rfl⟩ := hfilled.exists_handler hroute
    refine .inr ⟨α, β, handler, identity, observed, call, fun handlerAt new => ?_, hroute, hheaders, ?_⟩
    · rw [answer, hcalled _ _ (Router.route?_rewire hpath handlerAt)]
    · rw [answer, hcalled _ _ hroute]
      exact Prod.ext (identify_route ..) rfl

/-- The response carries the id of the request. -/
theorem exists_setHeader_answer (hfilled : server.router.Filled) (request : RawRequest) (new : RequestId) :
    ∃ response : Response, (server.answer request new).1 =
      response.setHeader RequestId.header (RequestId.ofHeaders request.headers new).print := by
  rcases answer_cases hfilled request new with ⟨refusal, hrefused⟩ | ⟨_, _, handler, identity, observed, call, hcalled⟩
  · exact ⟨refusal, congrArg Prod.fst (hrefused server.router rfl)⟩
  · obtain ⟨-, -, hheaders, hanswer⟩ := hcalled
    rw [hanswer, ← hheaders]
    exact handler.exists_setHeader_route identity observed call new

/-- **One id for each request.** Over a router that registries have filled, the response to any request has one header
for the id, in whatever case names are compared, and so has what is sent of it. Its value is the text of an id: 26
digits of the alphabet, which write the number of the id. If the first header for the id that the request carries is
an id between blanks, it is that one, and a request that carries the text of the response gets it back. Either the
answer is the same whatever handlers are mounted, or it is that of the handler at the path of a call, and each run of
the handler that it takes sees the id of the response. -/
theorem answer_identified (hfilled : server.router.Filled) (request : RawRequest) (new : RequestId) :
    ∃ id : RequestId,
      ((server.answer request new).1.headers.named RequestId.header = [(RequestId.header, id.print)] ∧
        (RawResponse.ofResponse request.method (server.answer request new).1).headers.named RequestId.header =
          [(RequestId.header, id.print)]) ∧
      (id.print.toList.length = 26 ∧ (∀ c ∈ id.print.toList, c ∈ RequestId.alphabet) ∧
        RequestId.valueOf id.print.toList = id.number.toNat) ∧
      (∀ value inbound, request.headers.get? RequestId.header = some value →
        RequestId.parse (Text.trim value) = .ok inbound → id = inbound) ∧
      (∀ (echo : RawRequest) (new' : RequestId), echo.headers.get? RequestId.header = some id.print →
        (server.answer echo new').1.headers.named RequestId.header = [(RequestId.header, id.print)]) ∧
      ((∀ handlerAt,
          { server with router := server.router.rewire handlerAt }.answer request new = server.answer request new) ∨
        ∃ (α β : Type) (handler : Handler α β) (identity : RouteIdentity) (observed : Bool) (call : Request)
          (runs : List (Context × α)),
          server.Calls request call ∧ server.router.route? call.path = some (handler.route identity observed) ∧
          (handler.serve handler.noting identity observed call new).run [] = (server.answer request new, runs) ∧
          ∀ run ∈ runs, run.1.requestId = id) := by
  have hnamed (request : RawRequest) (new : RequestId) :
      (server.answer request new).1.headers.named RequestId.header =
        [(RequestId.header, (RequestId.ofHeaders request.headers new).print)] := by
    obtain ⟨response, hresponse⟩ := exists_setHeader_answer hfilled request new
    rw [hresponse]
    exact Headers.named_set ..
  refine ⟨RequestId.ofHeaders request.headers new, ⟨hnamed request new, ?_⟩, ⟨?_, ?_, RequestId.valueOf_print _⟩, ?_,
    ?_, ?_⟩
  · obtain ⟨response, hresponse⟩ := exists_setHeader_answer hfilled request new
    rw [hresponse]
    exact named_wireHeaders_set (by decide) (isSendable_requestId _) _
  · rw [RequestId.toList_print, RequestId.length_digits]
    rfl
  · exact fun c hc => RequestId.mem_alphabet_of_mem_print hc
  · intro value inbound hvalue hparse
    exact RequestId.ofHeaders_of_parse inbound hvalue hparse new
  · intro echo new' hecho
    rw [hnamed, RequestId.ofHeaders_of_print _ hecho]
  · rcases answer_cases hfilled request new with ⟨refusal, hrefused⟩ | ⟨α, β, handler, identity, observed, call, hcalled⟩
    · exact .inl fun handlerAt =>
        (hrefused _ (server.router.paths_rewire handlerAt)).trans (hrefused server.router rfl).symm
    · obtain ⟨hcalls, hroute, hheaders, hanswer⟩ := hcalled
      refine .inr ⟨α, β, handler, identity, observed, call, handler.runs identity observed call new, hcalls, hroute, ?_,
        fun run hrun => ?_⟩
      · rw [handler.run_noting, hanswer]
      · rw [handler.context_of_mem_runs identity observed call new hrun, Context.ofRequest, hheaders]

/-- An id in lowercase between blanks, of more bits than are read, in front of another one, to a handler that breaks
down. -/
theorem answer_identified_truncated :
    let identity : RouteIdentity := ⟨"jobs", "run", by decide, by decide⟩
    let handler : Handler Unit String := ⟨fun _ => .ok (), fun _ _ => .panic, fun text => .ok (.string text)⟩
    let router : Router := ⟨[("/jobs.run", handler.route identity false)]⟩
    let server : HttpServer := ⟨router, 1, 100⟩
    let request : RawRequest :=
      ⟨"POST", "/jobs.run", [("X-Request-ID", "\tzzzzzzzzzzzzzzzzzzzzzzzzzz "), ("x-request-id", "0")], none, []⟩
    let answer := server.answer request ⟨0⟩
    server.router.Filled ∧ answer.1.status = 500 ∧
      answer.1.headers.named RequestId.header = [(RequestId.header, "7ZZZZZZZZZZZZZZZZZZZZZZZZZ")] := by
  intro identity handler router server request answer
  have hregister : ∃ registration registry', (Registry.empty .root []).register .empty identity ⟨.unknown, .string⟩
      handler = .ok (registration, registry', router) := ⟨_, _, rfl⟩
  obtain ⟨_, _, hregister⟩ := hregister
  have hfilled : server.router.Filled := .register .empty hregister
  refine ⟨hfilled, by decide +kernel, ?_⟩
  obtain ⟨id, ⟨hnamed, -⟩, -, hinbound, -⟩ := answer_identified hfilled request ⟨0⟩
  rw [hnamed, hinbound _ ⟨BitVec.allOnes 128⟩ rfl (by decide +kernel)]
  decide +kernel

end HttpServer

end Server

end TypedRpc
