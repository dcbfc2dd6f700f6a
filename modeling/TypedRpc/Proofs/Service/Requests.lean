import Mathlib.Data.List.Basic
import TypedRpc.Proofs.Handler.Answer
import TypedRpc.Proofs.Json.Canonical
import TypedRpc.Proofs.Service.Session

/-!
# Requests to one handler

Requests to a registered handler are answered one by one, each by the handler as it is mounted, and change nothing, so
what one of them brings about is no matter to the others. Main statement: `requests_answered`.
-/

namespace TypedRpc

open TypedRpc.Http

/-! ## Bodies -/

namespace Wire

/-- The blanks of ASCII. -/
def asciiBlanks : List UInt8 :=
  [0x09, 0x0A, 0x0C, 0x0D, 0x20]

theorem isAsciiBlank_iff {b : UInt8} : isAsciiBlank b = true ↔ b ∈ asciiBlanks := by
  simp only [isAsciiBlank, asciiBlanks, Bool.or_eq_true, beq_iff_eq, List.mem_cons, List.not_mem_nil, or_false]
  tauto

theorem bodyText_of_blank {body : List UInt8} (h : ∀ b ∈ body, b ∈ asciiBlanks) :
    bodyText body = [0x7B, 0x7D] := by
  rw [bodyText, if_pos (List.all_eq_true.mpr fun b hb => isAsciiBlank_iff.mpr (h b hb))]
  rfl

theorem bodyText_of_not_blank {body : List UInt8} {b : UInt8} (hb : b ∈ body) (h : b ∉ asciiBlanks) :
    bodyText body = body := by
  refine if_neg fun hall => h (isAsciiBlank_iff.mp ?_)
  exact List.all_eq_true.mp hall b hb

end Wire

/-- The runs of the handler that it takes to answer a request. -/
def Offer.runs (mount : Mount) (offer : Offer) (request : Request) (new : RequestId) : List (Context × offer.α) :=
  offer.handler.runs offer.identity mount.observed request new

namespace Service

/-- What the observer of the handlers is told in the course of a session. -/
def told : List Reply → List Observation
  | [] => []
  | .dispatched (some answer) :: replies => answer.2 ++ told replies
  | _ :: replies => told replies

variable {mount : Mount} {slots : SlotTable} {offers : List Offer} {offer : Offer}

/-- Requests to one handler are answered by that handler, and the service stays as it is. -/
theorem session_requests (hnodup : (offers.map (·.path mount)).Nodup) (hoffer : offer ∈ offers)
    {calls : List (Request × RequestId)} (hcalls : ∀ call ∈ calls, call.1.path = offer.path mount) :
    (ofOffers mount slots offers).session (calls.map fun call => .dispatch call.1 call.2) =
      (calls.map fun call => .dispatched (some (offer.route mount call.1 call.2)), ofOffers mount slots offers) := by
  induction calls with
  | nil => rfl
  | cons call calls ih =>
    obtain ⟨hcall, hrest⟩ := List.forall_mem_cons.mp hcalls
    rw [List.map_cons, session, step, dispatch_of_mem hnodup hoffer hcall]
    dsimp only
    rw [ih hrest, List.map_cons]

theorem told_dispatched (calls : List (Request × RequestId)) (reply : Request × RequestId → Response × List Observation) :
    told (calls.map fun call => .dispatched (some (reply call))) = calls.flatMap fun call => (reply call).2 := by
  induction calls with
  | nil => rfl
  | cons call calls ih => rw [List.map_cons, told, ih, List.flatMap_cons]

/-- **Each request is answered once.** Any number of requests to a registered handler get one reply each and change
nothing. The status and the body of a reply are what comes of decoding the body of the request, running the handler and
encoding its output (`Answers`), and its one header is the id of the request. The handler is not run on a body that is
not decoded, and once on any other. What the observer is told over all the requests are the failures that the handler
reports, each once and in order, if there is an observer. A handler of shapes decodes a body of nothing but blanks as an
object without members, and any other as it is. An encoded output is sent in canonical form: the members of each object
are sorted by name, and of several members of one name the last one is sent. -/
theorem requests_answered (mount : Mount) (slots : SlotTable) (steps : List Step) :
    let service := (session (.empty mount slots) steps).2
    let offers := registered steps (session (.empty mount slots) steps).1
    (∀ offer ∈ offers, ∀ calls : List (Request × RequestId),
      (∀ call ∈ calls, call.1.path = mount.routeOf offer.identity) →
      ∃ (reply : Request × RequestId → Response × List Observation) (reported : Request × RequestId → Option Failure),
        service.session (calls.map fun call => .dispatch call.1 call.2) =
          (calls.map fun call => .dispatched (some (reply call)), service) ∧
        (∀ call ∈ calls, ∃ status body,
          offer.handler.Answers
            ⟨RequestId.ofHeaders call.1.headers call.2, offer.identity, call.1.path, call.1.headers⟩ call.1.body
            (offer.runs mount call.1 call.2) (reported call) status body ∧
          (reply call).1 = ⟨status, [("x-request-id", (RequestId.ofHeaders call.1.headers call.2).print)], body⟩ ∧
          (offer.handler.serve offer.handler.noting offer.identity mount.observed call.1 call.2).run [] =
            (reply call, offer.runs mount call.1 call.2)) ∧
        told (service.session (calls.map fun call => .dispatch call.1 call.2)).1 =
          if mount.observed then calls.filterMap fun call => (reported call).map (Observation.mk offer.identity)
          else []) ∧
    (∀ (α β : Type) declared input (read : Wire.Value → α) (write : β → Wire.Value) (run : Context → α → Outcome β) body,
      ((∀ b ∈ body, b ∈ Wire.asciiBlanks) →
        (Handler.shaped declared input read write run).decode body =
          (Wire.decode declared input [0x7B, 0x7D]).map read) ∧
      ((∃ b ∈ body, b ∉ Wire.asciiBlanks) →
        (Handler.shaped declared input read write run).decode body = (Wire.decode declared input body).map read)) ∧
    ∀ json : Json.Value,
      match json with
      | .object members => ∃ sorted, json.canonical = .object sorted ∧ Json.Value.Ascending sorted ∧
          ∀ name, sorted.lookup name = (members.reverse.lookup name).map Json.Value.canonical
      | .array items => json.canonical = .array (items.map Json.Value.canonical)
      | _ => json.canonical = json := by
  intro service offers
  obtain ⟨hoffers, hservice⟩ : offers = accepted steps ∧ service = ofOffers mount slots offers :=
    session_state mount slots steps
  refine ⟨fun offer hoffer calls hcalls => ?_, fun α β declared input read write run body => ⟨fun hblank => ?_, ?_⟩,
    Json.Value.canonical_levels⟩
  · have hanswers (call : Request × RequestId) :=
      offer.handler.exists_answers offer.identity mount.observed call.1 call.2
    choose reported status body hanswers hroute using hanswers
    have hsession : (ofOffers mount slots offers).session _ = _ :=
      session_requests (hoffers ▸ accepted_paths_nodup mount steps) hoffer hcalls
    have htold (call : Request × RequestId) : (offer.route mount call.1 call.2).2 =
        if mount.observed then ((reported call).map (Observation.mk offer.identity)).toList else [] :=
      congrArg Prod.snd (hroute call)
    rw [hservice]
    refine ⟨fun call => offer.route mount call.1 call.2, reported, hsession, fun call _ => ?_, ?_⟩
    · exact ⟨status call, body call, hanswers call, congrArg Prod.fst (hroute call), offer.handler.run_noting ..⟩
    · rw [hsession, told_dispatched]
      simp only [htold]
      cases mount.observed with
      | false => exact List.flatMap_eq_nil_iff.mpr fun _ _ => rfl
      | true => exact (List.filterMap_eq_flatMap_toList _ _).symm
  · show (Wire.decode declared input (Wire.bodyText body)).map read = _
    rw [Wire.bodyText_of_blank hblank]
  · rintro ⟨b, hb, hblank⟩
    show (Wire.decode declared input (Wire.bodyText body)).map read = _
    rw [Wire.bodyText_of_not_blank hb hblank]

/-- A body that is not decoded, a value, one that has no JSON form, a failure, a breakdown, and the failure again. -/
theorem requests_answered_observed :
    let identity : RouteIdentity := ⟨"jobs", "run", by decide, by decide⟩
    let handler : Handler UInt8 (List (String × Json.Value)) :=
      ⟨fun body => match body with
          | [b] => .ok b
          | _ => .error ⟨.notJson .endInValue, 1, 0, []⟩,
        fun _ b =>
          if b = 0 then .value [("state", .string "queued"), ("jobs", .integer 2), ("state", .string "done")]
          else if b = 1 then .value []
          else if b = 2 then .failure ⟨"busy", []⟩
          else .panic,
        fun members => if members.isEmpty then .error .keyNotString else .ok (.object members)⟩
    let offer : Offer := ⟨identity, ⟨.number, .unknown⟩, handler⟩
    let mount : Mount := ⟨"/api", true⟩
    let steps : List Step := [.register offer]
    let service := (session (.empty mount []) steps).2
    let calls : List (Request × RequestId) :=
      [[], [0], [1], [2], [3], [2]].map fun body => (⟨"/api/jobs.run", [], body⟩, ⟨0⟩)
    let ids : Headers := [("x-request-id", "00000000000000000000000000")]
    offer ∈ registered steps (session (.empty mount []) steps).1 ∧
    (∀ call ∈ calls, call.1.path = mount.routeOf identity) ∧
    (∃ reply : Request × RequestId → Response × List Observation,
      service.session (calls.map fun call => .dispatch call.1 call.2) =
        (calls.map fun call => .dispatched (some (reply call)), service) ∧
      calls.map (fun call => ((reply call).1.status, (reply call).1.headers, (reply call).1.body.print)) =
        [(400, ids, "\x7b\"message\":\"EOF while parsing a value at line 1 column 0\"\x7d"),
          (200, ids, "\x7b\"jobs\":2,\"state\":\"done\"\x7d"),
          (500, ids, "\x7b\"message\":\"failed to encode response: key must be a string\"\x7d"),
          (400, ids, "\x7b\"message\":\"busy\"\x7d"),
          (500, ids, "\x7b\"message\":\"handler panicked\"\x7d"),
          (400, ids, "\x7b\"message\":\"busy\"\x7d")]) ∧
    calls.map (fun call => (offer.runs mount call.1 call.2).map (·.2)) = [[], [0], [1], [2], [3], [2]] ∧
    (told (service.session (calls.map fun call => .dispatch call.1 call.2)).1).map (·.failure.message) =
      ["busy", "busy"] := by
  intro identity handler offer mount steps service calls ids
  have hoffer : offer ∈ registered steps (session (.empty mount []) steps).1 := List.mem_singleton_self offer
  have hcalls : ∀ call ∈ calls, call.1.path = mount.routeOf identity := by decide
  obtain ⟨reply, reported, hsession, hreplies, htold⟩ := (requests_answered mount [] steps).1 offer hoffer calls hcalls
  have hresponse : ∀ call ∈ calls,
      (reply call).1 = ((handler.serve handler.noting identity true call.1 call.2).run []).1.1 := by
    intro call hcall
    obtain ⟨_, _, -, -, hrun⟩ := hreplies call hcall
    exact congrArg (·.1.1) hrun.symm
  refine ⟨hoffer, hcalls, ⟨reply, hsession, ?_⟩, by decide +kernel, by decide +kernel⟩
  rw [List.map_congr_left fun call hcall => by rw [hresponse call hcall]]
  decide +kernel

end Service

end TypedRpc
