import TypedRpc.Handler.Basic

/-!
# How a handler answers a request

The code that answers a request is the same whatever running the handler does besides, so the runs of a request can be
noted by that code itself. `Answers` lists what can come of a request; a mounted handler answers as it says, and the
runs are those that it says (`exists_answers`).
-/

namespace TypedRpc.Handler

open TypedRpc.Http

variable {α β : Type}

/-! ## One request, for any way to run the handler -/

section

variable {m : Type → Type} [Monad m] [LawfulMonad m] {handler : Handler α β} (run : Context → α → m (Outcome β))
  (identity : RouteIdentity) (observed : Bool) {request : Request} (new : RequestId)

/-- The handler is not run on a body that is not decoded. -/
theorem serve_of_error {e : Json.DecodeError} (h : handler.decode request.body = .error e) :
    handler.serve run identity observed request new =
      pure ((Response.error 400 e.message).setHeader RequestId.header
        (Context.ofRequest identity request new).requestId.print, []) := by
  simp [serve, answer, h]

/-- The handler is run once on what a body is decoded to. -/
theorem serve_of_ok {input : α} (h : handler.decode request.body = .ok input) :
    handler.serve run identity observed request new =
      (fun outcome => ((handler.respond outcome).setHeader RequestId.header
          (Context.ofRequest identity request new).requestId.print,
        if observed then observe identity outcome else [])) <$> run (Context.ofRequest identity request new) input := by
  simp [serve, answer, h, Context.ofRequest]

theorem respond_of_encode_ok {output : β} {json : Json.Value} (h : handler.encode output = .ok json) :
    handler.respond (.value output) = ⟨200, [], json.canonical⟩ := by
  simp only [respond, h]
  rfl

theorem respond_of_encode_error {output : β} {e : EncodeError} (h : handler.encode output = .error e) :
    handler.respond (.value output) =
      ⟨500, [], .object [("message", .string ("failed to encode response: " ++ e.message))]⟩ := by
  simp only [respond, h]
  rfl

end

/-! ## What can come of a request -/

/-- What can come of a request with some body: the runs of the handler that it takes, the failure that the handler
reports, and the status and the body of the response. -/
inductive Answers (handler : Handler α β) (context : Context) (body : List UInt8) :
    List (Context × α) → Option Failure → Nat → Json.Value → Prop
  | undecoded {e : Json.DecodeError} : handler.decode body = .error e →
      Answers handler context body [] none 400 (.object [("message", .string e.message)])
  | value {input : α} {output : β} {json : Json.Value} : handler.decode body = .ok input →
      handler.run context input = .value output → handler.encode output = .ok json →
        Answers handler context body [(context, input)] none 200 json.canonical
  | unencoded {input : α} {output : β} {e : EncodeError} : handler.decode body = .ok input →
      handler.run context input = .value output → handler.encode output = .error e →
        Answers handler context body [(context, input)] none 500
          (.object [("message", .string ("failed to encode response: " ++ e.message))])
  | failure {input : α} {failure : Failure} : handler.decode body = .ok input →
      handler.run context input = .failure failure →
        Answers handler context body [(context, input)] (some failure) 400
          (.object [("message", .string failure.message)])
  | panic {input : α} : handler.decode body = .ok input → handler.run context input = .panic →
      Answers handler context body [(context, input)] none 500 (.object [("message", .string "handler panicked")])

/-! ## Noting the runs -/

/-- Runs the handler, after a note of the context and the input. -/
def noting (handler : Handler α β) (context : Context) (input : α) : StateM (List (Context × α)) (Outcome β) := do
  modify (· ++ [(context, input)])
  pure (handler.run context input)

variable (handler : Handler α β) (identity : RouteIdentity) (observed : Bool) (request : Request) (new : RequestId)

/-- The runs of the handler that it takes to answer a request. -/
def runs : List (Context × α) :=
  ((handler.serve handler.noting identity observed request new).run []).2

/-- Taking notes does not change the answer. -/
theorem run_noting : (handler.serve handler.noting identity observed request new).run [] =
    (handler.route identity observed request new, handler.runs identity observed request new) := by
  refine Prod.ext ?_ rfl
  cases hdecode : handler.decode request.body with
  | error e =>
    rw [route, serve_of_error _ _ _ _ hdecode, serve_of_error _ _ _ _ hdecode]
    rfl
  | ok input =>
    rw [route, serve_of_ok _ _ _ _ hdecode, serve_of_ok _ _ _ _ hdecode]
    rfl

theorem route_of_ok {input : α} (h : handler.decode request.body = .ok input) :
    handler.route identity observed request new =
      ((handler.respond (handler.run (.ofRequest identity request new) input)).setHeader RequestId.header
          (Context.ofRequest identity request new).requestId.print,
        if observed then observe identity (handler.run (.ofRequest identity request new) input) else []) := by
  rw [route, serve_of_ok _ _ _ _ h]
  rfl

/-- A mounted handler answers in one of the ways that there are, with the runs that belong to it. The response has one
header, the id of the request, and the observer is told the failure that the handler reports. -/
theorem exists_answers : ∃ reported status body,
    handler.Answers (.ofRequest identity request new) request.body
      (handler.runs identity observed request new) reported status body ∧
    handler.route identity observed request new =
      (⟨status, [("x-request-id", (RequestId.ofHeaders request.headers new).print)], body⟩,
        if observed then (reported.map (Observation.mk identity)).toList else []) := by
  cases hdecode : handler.decode request.body with
  | error e =>
    rw [runs, route, serve_of_error _ _ _ _ hdecode, serve_of_error _ _ _ _ hdecode]
    exact ⟨none, _, _, .undecoded hdecode, by cases observed <;> rfl⟩
  | ok input =>
    rw [runs, serve_of_ok _ _ _ _ hdecode, route_of_ok _ _ _ _ _ hdecode]
    cases hrun : handler.run (.ofRequest identity request new) input with
    | value output =>
      cases hencode : handler.encode output with
      | ok json => exact ⟨none, _, _, .value hdecode hrun hencode, by rw [respond_of_encode_ok hencode]; rfl⟩
      | error e =>
        exact ⟨none, _, _, .unencoded hdecode hrun hencode, by rw [respond_of_encode_error hencode]; rfl⟩
    | failure failure => exact ⟨some failure, _, _, .failure hdecode hrun, rfl⟩
    | panic => exact ⟨none, _, _, .panic hdecode hrun, rfl⟩

/-- The handler is run in the context of the request. -/
theorem context_of_mem_runs {run : Context × α} (h : run ∈ handler.runs identity observed request new) :
    run.1 = .ofRequest identity request new := by
  obtain ⟨reported, status, body, hanswers, -⟩ := handler.exists_answers identity observed request new
  generalize handler.runs identity observed request new = runs at h hanswers
  cases hanswers with
  | undecoded => exact absurd h List.not_mem_nil
  | value | unencoded | failure | panic => rw [List.mem_singleton.mp h]

/-- The response carries the id of the request. -/
theorem exists_setHeader_route : ∃ response, (handler.route identity observed request new).1 =
    Response.setHeader response RequestId.header (RequestId.ofHeaders request.headers new).print := by
  obtain ⟨_, status, body, -, hroute⟩ := handler.exists_answers identity observed request new
  exact ⟨⟨status, [], body⟩, congrArg Prod.fst hroute⟩

end TypedRpc.Handler
