import TypedRpc.Proofs.Compiler.NameTable
import TypedRpc.Proofs.Route.Identity
import TypedRpc.Service

/-!
# Sessions of a service

A session registers handlers and sends requests, in any order. A handler is accepted if its key is new; what a
service is after a session depends on the accepted handlers alone (`session_state`). Main statement: registry
and router stay in step, and a request is answered by the handler that was accepted for its path.
-/

namespace TypedRpc

open TypedRpc.Http

/-- A handler that is to be registered. -/
structure Offer where
  {α β : Type}
  identity : RouteIdentity
  signature : Signature
  handler : Handler α β

namespace Offer

/-- The path at which the handler is to be mounted. -/
def path (mount : Mount) (offer : Offer) : String :=
  mount.routeOf offer.identity

/-- The handler as it is to be mounted. -/
def route (mount : Mount) (offer : Offer) : Route :=
  offer.handler.route offer.identity mount.observed

/-- What is to be recorded of the handler. -/
def record (mount : Mount) (slots : SlotTable) (offer : Offer) : Registration :=
  (Registry.empty mount slots).record offer.identity offer.signature

end Offer

namespace Service

/-- What is asked of a service. -/
inductive Step where
  | register (offer : Offer)
  /-- A request, and the id that it gets if it carries none. -/
  | dispatch (request : Request) (new : RequestId)

/-- What a service answers. -/
inductive Reply where
  | registered (registration : Registration)
  | refused (error : RegistryError)
  | dispatched (answer : Option (Response × List Observation))

/-- Takes a step. -/
def step (service : Service) : Step → Reply × Service
  | .register offer =>
    match service.register offer.identity offer.signature offer.handler with
    | .error e => (.refused e, service)
    | .ok (registration, service) => (.registered registration, service)
  | .dispatch request new => (.dispatched (service.router.dispatch request new), service)

/-- Takes steps one after the other. -/
def session (service : Service) : List Step → List Reply × Service
  | [] => ([], service)
  | step :: rest =>
    let (reply, service) := service.step step
    let (replies, service) := session service rest
    (reply :: replies, service)

/-- The offers of a session that are the first ones with their keys, in order. -/
def accepted : List Step → List Offer
  | [] => []
  | .register offer :: rest =>
    offer :: (accepted rest).filter fun later => later.identity.key != offer.identity.key
  | .dispatch .. :: rest => accepted rest

/-- The offers of a session that were answered by a registration, in order. -/
def registered : List Step → List Reply → List Offer
  | .register offer :: steps, .registered _ :: replies => offer :: registered steps replies
  | _ :: steps, _ :: replies => registered steps replies
  | _, _ => []

/-- The service that has accepted these offers. -/
def ofOffers (mount : Mount) (slots : SlotTable) (offers : List Offer) : Service where
  registry := ⟨mount, slots, offers.map fun offer => (offer.identity.key, offer.record mount slots)⟩
  router := ⟨offers.map fun offer => (offer.path mount, offer.route mount)⟩

end Service

/-! ## One step -/

/-- A path that is not mounted yet gets the last place. -/
theorem Router.setRoute_of_notMem {path : String} {routes : List (String × Route)}
    (h : path ∉ routes.map (·.1)) (route : Route) : setRoute path route routes = routes ++ [(path, route)] := by
  induction routes with
  | nil => rfl
  | cons entry routes ih =>
    simp only [List.map_cons, List.mem_cons, not_or] at h
    rw [setRoute, if_neg (Ne.symm h.1), ih h.2, List.cons_append]

namespace Service

variable {mount : Mount} {slots : SlotTable} {offers : List Offer} {offer : Offer}

/-- The entry of the first offer that asks for a key or for a path. -/
theorem lookup_map {β : Type} (key : Offer → String) (value : Offer → β) (offers : List Offer) (s : String) :
    (offers.map fun offer => (key offer, value offer)).lookup s =
      (offers.find? fun offer => key offer == s).map value := by
  induction offers with
  | nil => rfl
  | cons offer offers ih =>
    by_cases h : key offer = s
    · simp [h]
    · have hne : (s == key offer) = false := by simpa using Ne.symm h
      simp [List.lookup_cons, h, hne, ih]

theorem step_register_taken (h : offer.identity.key ∈ offers.map (·.identity.key)) :
    (ofOffers mount slots offers).step (.register offer) =
      (.refused (.duplicate offer.identity.key), ofOffers mount slots offers) := by
  have hmem : offer.identity.key ∈ (ofOffers mount slots offers).registry.handlers.map (·.1) := by
    simpa [ofOffers] using h
  obtain ⟨registration, hget⟩ := Compiler.exists_lookup_of_mem hmem
  simp [step, Service.register, Registry.register, Registry.get?, hget]

theorem step_register_new (h : offer.identity.key ∉ offers.map (·.identity.key)) :
    (ofOffers mount slots offers).step (.register offer) =
      (.registered (offer.record mount slots), ofOffers mount slots (offers ++ [offer])) := by
  have hkey : offer.identity.key ∉ (ofOffers mount slots offers).registry.handlers.map (·.1) := by
    simpa [ofOffers] using h
  have hpath : offer.path mount ∉ (ofOffers mount slots offers).router.routes.map (·.1) := by
    -- a path that is taken belongs to an offer of the same key
    simp only [ofOffers, List.map_map, List.mem_map, Function.comp_apply, not_exists, not_and] at h ⊢
    intro other hother hsame
    have hidentity : other.identity = offer.identity := mount.routeOf_injective hsame
    exact h other hother (congrArg RouteIdentity.key hidentity)
  have hget := Compiler.lookup_eq_none_iff.mpr hkey
  have hset := Router.setRoute_of_notMem hpath (offer.route mount)
  simp only [step, Service.register, Registry.register, Registry.get?, hget]
  simp only [ofOffers] at hset ⊢
  simp only [List.map_append, List.map_cons, List.map_nil, ← hset]
  rfl

/-- The handler at a path is that of the first offer for it. -/
theorem route?_ofOffers (path : String) :
    (ofOffers mount slots offers).router.route? path =
      (offers.find? fun offer => offer.path mount == path).map (·.route mount) :=
  lookup_map (Offer.path mount) (Offer.route mount) offers path

theorem dispatch_ofOffers (request : Request) (new : RequestId) :
    (ofOffers mount slots offers).router.dispatch request new =
      (offers.find? fun offer => offer.path mount == request.path).map
        fun offer => offer.route mount request new := by
  rw [Router.dispatch, route?_ofOffers, Option.map_map]
  rfl

theorem step_dispatch (request : Request) (new : RequestId) :
    (ofOffers mount slots offers).step (.dispatch request new) =
      (.dispatched ((offers.find? fun offer => offer.path mount == request.path).map
        fun offer => offer.route mount request new), ofOffers mount slots offers) := by
  rw [step, dispatch_ofOffers]

/-! ## A whole session -/

theorem accepted_nodup (steps : List Step) : ((accepted steps).map (·.identity.key)).Nodup := by
  induction steps with
  | nil => exact List.nodup_nil
  | cons step rest ih =>
    cases step with
    | register offer =>
      rw [accepted, List.map_cons, List.nodup_cons]
      refine ⟨by simp, ?_⟩
      exact ih.sublist (List.filter_sublist.map _)
    | dispatch request new => exact ih

/-- The key of the later offer is not among those of the offers. -/
def isNew (offers : List Offer) (later : Offer) : Bool :=
  decide (later.identity.key ∉ offers.map (·.identity.key))

theorem isNew_snoc (offers : List Offer) (offer later : Offer) :
    isNew (offers ++ [offer]) later = (isNew offers later && later.identity.key != offer.identity.key) := by
  by_cases h : later.identity.key = offer.identity.key <;> simp [isNew, h]

/-- An offer whose key is taken takes no further key. -/
theorem isNew_snoc_of_taken (h : offer.identity.key ∈ offers.map (·.identity.key)) :
    isNew (offers ++ [offer]) = isNew offers := by
  funext later
  by_cases heq : later.identity.key = offer.identity.key
  · rw [isNew_snoc, isNew, heq, decide_eq_false (not_not.mpr h), Bool.false_and]
  · rw [isNew_snoc, bne_iff_ne.mpr heq, Bool.and_true]

/-- From some offers on, the later ones are accepted whose keys are new. -/
theorem session_ofOffers (mount : Mount) (slots : SlotTable) (steps : List Step) (offers : List Offer) :
    let later := (accepted steps).filter (isNew offers)
    registered steps (session (ofOffers mount slots offers) steps).1 = later ∧
      (session (ofOffers mount slots offers) steps).2 = ofOffers mount slots (offers ++ later) := by
  induction steps generalizing offers with
  | nil => simp [session, accepted, registered]
  | cons step rest ih =>
    rw [session]
    cases step with
    | register offer =>
      have hlater : ((accepted rest).filter fun later => later.identity.key != offer.identity.key).filter
          (isNew offers) = (accepted rest).filter (isNew (offers ++ [offer])) := by
        rw [List.filter_filter]
        exact List.filter_congr fun later _ => (isNew_snoc offers offer later).symm
      by_cases h : offer.identity.key ∈ offers.map (·.identity.key)
      · rw [step_register_taken h, accepted, List.filter_cons_of_neg (by simpa [isNew] using h), hlater,
          isNew_snoc_of_taken h]
        exact ih offers
      · obtain ⟨hreplies, hstate⟩ := ih (offers ++ [offer])
        rw [step_register_new h, accepted, List.filter_cons_of_pos (by simpa [isNew] using h), hlater]
        exact ⟨congrArg (offer :: ·) hreplies, hstate.trans (congrArg _ (List.append_cons ..).symm)⟩
    | dispatch request new =>
      rw [step_dispatch, accepted]
      exact ih offers

/-- A service is determined by the offers that it has registered, which are those that it had to accept. -/
theorem session_state (mount : Mount) (slots : SlotTable) (steps : List Step) :
    let outcome := session (.empty mount slots) steps
    registered steps outcome.1 = accepted steps ∧
      outcome.2 = ofOffers mount slots (registered steps outcome.1) := by
  obtain ⟨hreplies, hstate⟩ := session_ofOffers mount slots steps []
  have hall : (accepted steps).filter (isNew []) = accepted steps :=
    List.filter_eq_self.mpr fun offer _ => rfl
  rw [hall] at hreplies hstate
  exact ⟨hreplies, hreplies ▸ hstate⟩

theorem paths_ofOffers (mount : Mount) (slots : SlotTable) (offers : List Offer) :
    (ofOffers mount slots offers).router.paths = offers.map (·.path mount) := by
  simp [ofOffers, Router.paths, Function.comp_def]

theorem registrations_ofOffers (mount : Mount) (slots : SlotTable) (offers : List Offer) :
    (ofOffers mount slots offers).registry.registrations = offers.map (·.record mount slots) := by
  simp [ofOffers, Registry.registrations, Function.comp_def]

theorem keys_ofOffers (mount : Mount) (slots : SlotTable) (offers : List Offer) :
    (ofOffers mount slots offers).registry.handlers.map (·.1) = offers.map (·.identity.key) := by
  simp [ofOffers, Function.comp_def]

/-- No identity is accepted twice. -/
theorem accepted_identities_nodup (steps : List Step) : ((accepted steps).map (·.identity)).Nodup := by
  refine List.Nodup.of_map RouteIdentity.key ?_
  simpa [Function.comp_def] using accepted_nodup steps

/-- No path is accepted twice. -/
theorem accepted_paths_nodup (mount : Mount) (steps : List Step) :
    ((accepted steps).map (·.path mount)).Nodup := by
  have hpaths := (accepted_identities_nodup steps).map mount.routeOf_injective
  rwa [List.map_map] at hpaths

/-! ## The handler of a path -/

/-- With each key once, the first offer that has a key is the one that has it. -/
theorem find?_of_mem {key : Offer → String} (hnodup : (offers.map key).Nodup) (hoffer : offer ∈ offers) :
    offers.find? (fun other => key other == key offer) = some offer := by
  have hsome : (offers.find? fun other => key other == key offer).isSome := by
    rw [List.find?_isSome]
    exact ⟨offer, hoffer, beq_self_eq_true _⟩
  obtain ⟨other, hother⟩ := Option.isSome_iff_exists.mp hsome
  have hsame : key other = key offer := by
    simpa using List.find?_some hother
  rw [hother, List.inj_on_of_nodup_map hnodup (List.mem_of_find?_eq_some hother) hoffer hsame]

theorem route?_of_mem (hnodup : (offers.map (·.path mount)).Nodup) (hoffer : offer ∈ offers) :
    (ofOffers mount slots offers).router.route? (offer.path mount) = some (offer.route mount) := by
  rw [route?_ofOffers, find?_of_mem hnodup hoffer, Option.map_some]

theorem dispatch_of_mem (hnodup : (offers.map (·.path mount)).Nodup) (hoffer : offer ∈ offers) {request : Request}
    (hpath : request.path = offer.path mount) (new : RequestId) :
    (ofOffers mount slots offers).router.dispatch request new = some (offer.route mount request new) := by
  rw [Router.dispatch, hpath, route?_of_mem hnodup hoffer, Option.map_some]

/-! ## Registry and router -/

/-- **Registry and router stay in step.** After any session the offers that were registered are the first ones
with their keys. The registry holds each of them under its key, with the route of its identity, and the router
has the same routes in the same order, none of them twice. An offer whose key is taken is refused and changes
nothing, any other one is registered. A request is answered by the handler that was first registered with its
path as route, and not at all if there is none. -/
theorem session_in_step (mount : Mount) (slots : SlotTable) (steps : List Step) :
    let service := (session (.empty mount slots) steps).2
    let offers := registered steps (session (.empty mount slots) steps).1
    offers = accepted steps ∧
    (service.registry.handlers.map (·.1)).Nodup ∧
    (∀ entry ∈ service.registry.handlers,
      entry.1 = entry.2.identity.key ∧ entry.2.route = mount.routeOf entry.2.identity) ∧
    service.registry.registrations = offers.map (·.record mount slots) ∧
    service.router.paths = service.registry.registrations.map (·.route) ∧ service.router.paths.Nodup ∧
    (∀ offer, offer.identity.key ∈ service.registry.handlers.map (·.1) →
      service.step (.register offer) = (.refused (.duplicate offer.identity.key), service)) ∧
    (∀ offer, offer.identity.key ∉ service.registry.handlers.map (·.1) →
      ∃ later, service.step (.register offer) = (.registered (offer.record mount slots), later) ∧
        later.registry.registrations = service.registry.registrations ++ [offer.record mount slots] ∧
        later.router.paths = service.router.paths ++ [mount.routeOf offer.identity]) ∧
    ∀ request new, service.step (.dispatch request new) =
      (.dispatched ((offers.find? fun offer => mount.routeOf offer.identity == request.path).map
        fun offer => offer.handler.route offer.identity mount.observed request new), service) := by
  intro service offers
  obtain ⟨hoffers, hservice⟩ : offers = accepted steps ∧ service = ofOffers mount slots offers :=
    session_state mount slots steps
  have hkeys := keys_ofOffers mount slots offers
  have hregistrations := registrations_ofOffers mount slots offers
  have hpaths := paths_ofOffers mount slots offers
  rw [hservice]
  refine ⟨hoffers, ?_, ?_, hregistrations, ?_, ?_, ?_, ?_, step_dispatch⟩
  · rw [hkeys, hoffers]
    exact accepted_nodup steps
  · intro entry hentry
    obtain ⟨offer, -, rfl⟩ := List.mem_map.mp hentry
    exact ⟨rfl, rfl⟩
  · rw [hpaths, hregistrations, List.map_map]
    rfl
  · rw [hpaths, hoffers]
    exact accepted_paths_nodup mount steps
  · intro offer htaken
    exact step_register_taken (hkeys ▸ htaken)
  · intro offer hnew
    refine ⟨_, step_register_new (hkeys ▸ hnew), ?_, ?_⟩
    · rw [registrations_ofOffers, hregistrations, List.map_append, List.map_singleton]
    · rw [paths_ofOffers, hpaths, List.map_append, List.map_singleton]
      rfl

/-- Two handlers of one key, the second one after a request, and a third handler. -/
theorem session_in_step_twice :
    let first : RouteIdentity := ⟨"users", "list", by decide, by decide⟩
    let other : RouteIdentity := ⟨"users", "show", by decide, by decide⟩
    let answering (text : String) : Handler Unit String :=
      ⟨fun _ => .ok (), fun _ _ => .value text, fun text => .ok (.string text)⟩
    let offer (identity : RouteIdentity) (text : String) : Offer :=
      ⟨identity, ⟨.unknown, .string⟩, answering text⟩
    let request : Request := ⟨"/api/users.list", [], []⟩
    let service := (session (.empty ⟨"/api/", false⟩ [])
      [.register (offer first "one"), .dispatch request ⟨0⟩, .register (offer first "two"),
        .register (offer other "three")]).2
    service.router.paths = ["/api/users.list", "/api/users.show"] ∧
    first.key ∈ service.registry.handlers.map (·.1) ∧
    service.step (.register (offer first "four")) = (.refused (.duplicate "users.list"), service) ∧
    ∃ answer, service.step (.dispatch request ⟨0⟩) = (.dispatched (some answer), service) ∧
      answer.1.status = 200 ∧ answer.1.body = .string "one" := by
  intro first other answering offer request service
  obtain ⟨-, -, -, -, -, -, htaken, -, hdispatch⟩ := session_in_step ⟨"/api/", false⟩ []
    [.register (offer first "one"), .dispatch request ⟨0⟩, .register (offer first "two"),
      .register (offer other "three")]
  have hkey : first.key ∈ service.registry.handlers.map (·.1) := by
    decide +kernel
  exact ⟨by decide +kernel, hkey, htaken (offer first "four") hkey, _, hdispatch request ⟨0⟩, rfl, rfl⟩

end Service

end TypedRpc
