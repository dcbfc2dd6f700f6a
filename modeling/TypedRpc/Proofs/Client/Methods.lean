import TypedRpc.Proofs.Client.Compiled
import TypedRpc.Proofs.Client.Groups
import TypedRpc.Proofs.Client.Reading
import TypedRpc.Proofs.Service.Session

/-!
# Methods and routes

The methods that are read from the text of a client are those of the registered handlers, and what a method sends
is received by its handler.
-/

namespace TypedRpc

open TypedRpc.Text TypedRpc.TypeScript

namespace Client

/-! ## The groups of registered handlers -/

theorem wellNamed_groupsOf (registrations : List Registration) : WellNamed (groupsOf registrations) := by
  have hmethod : ∀ group ∈ groupsOf registrations, ∀ method ∈ group.methods,
      ∃ registration ∈ registrations, method = methodOf registration := by
    rw [groupsOf_eq]
    intro group hgroup method hmethod
    obtain ⟨ns, -, rfl⟩ := List.mem_map.mp hgroup
    obtain ⟨registration, hregistration, rfl⟩ := List.mem_map.mp hmethod
    exact ⟨registration, List.mem_of_mem_filter hregistration, rfl⟩
  refine ⟨fun group hgroup => ?_, fun group hgroup method h => ?_, fun group hgroup method h hline => ?_⟩
  · rw [groupsOf_eq] at hgroup
    obtain ⟨ns, hns, rfl⟩ := List.mem_map.mp hgroup
    obtain ⟨registration, -, rfl⟩ := List.mem_map.mp (List.mem_eraseDups.mp hns)
    exact registration.identity.ns_isSegment
  · obtain ⟨registration, -, rfl⟩ := hmethod group hgroup method h
    exact registration.identity.name_isSegment
  · -- a stem is made of two alias words
    obtain ⟨registration, -, rfl⟩ := hmethod group hgroup method h
    have hword : ∀ segment, '\n' ∉ (aliasWord segment).toList :=
      fun _ hmem => absurd (isAliasChar_of_mem_aliasWord hmem) (by decide)
    simp only [methodOf, stemOf, String.toList_append, List.mem_append] at hline
    exact hline.elim (hword _) (hword _)

end Client

/-- What the method of a handler does. -/
def Offer.call (slots : SlotTable) (offer : Offer) : Client.Call where
  name := offer.identity.name
  key := offer.identity.ns ++ "." ++ offer.identity.name
  takesArgument := !offer.signature.input.isEmptyComposite slots

namespace Client

variable {mount : Mount} {slots : SlotTable} {offers : List Offer}

theorem methodsIn_offers (ns : String) :
    (methodsIn (offers.map (·.record mount slots)) ns).map (fun method =>
      (⟨method.name, method.key, method.takesInput⟩ : Call)) =
      (offers.filter (·.identity.ns = ns)).map (·.call slots) := by
  rw [methodsIn, List.filter_map, List.map_map, List.map_map]
  rfl

theorem isEmptyComposite_iff {d : Descriptor} :
    d.isEmptyComposite slots = true ↔ d.isComposite = true ∧ d.fields slots = [] := by
  cases d <;> simp [Descriptor.isEmptyComposite, Descriptor.isComposite, Descriptor.fields]

/-- The calls in the client of accepted offers. -/
def callsFor (slots : SlotTable) (offers : List Offer) : List (String × List Call) :=
  (offers.map (·.identity.ns)).eraseDups.map fun ns =>
    (ns, (offers.filter (·.identity.ns = ns)).map (·.call slots))

theorem groupsOf_offers (mount : Mount) (slots : SlotTable) (offers : List Offer) :
    (groupsOf (offers.map (·.record mount slots))).map (fun group => (group.ns, group.methods.map fun method =>
      (⟨method.name, method.key, method.takesInput⟩ : Call))) = callsFor slots offers := by
  rw [groupsOf_eq, List.map_map, List.map_map]
  exact List.map_congr_left fun ns _ => congrArg (ns, ·) (methodsIn_offers ns)

/-- Each offer has its call, and there are no others. -/
theorem callsFor_perm (slots : SlotTable) (offers : List Offer) :
    ((callsFor slots offers).flatMap fun group => group.2.map fun call => (group.1, call)).Perm
      (offers.map fun offer => (offer.identity.ns, offer.call slots)) := by
  have hperm := (groupsOf_perm (offers.map (·.record .root slots))).map fun entry : String × Method =>
    (entry.1, (⟨entry.2.name, entry.2.key, entry.2.takesInput⟩ : Call))
  rw [List.map_flatMap, List.map_map] at hperm
  rw [← groupsOf_offers .root, List.flatMap_map]
  simp only [List.map_map, Function.comp_def] at hperm ⊢
  exact hperm

/-- No two calls have namespace and name in common, since these are the identity of an offer. -/
theorem callsFor_nodup (slots : SlotTable) {offers : List Offer} (h : (offers.map (·.identity)).Nodup) :
    ((callsFor slots offers).flatMap fun group => group.2.map fun call => (group.1, call.name)).Nodup := by
  have hnames := h.map RouteIdentity.names_injective
  have hcalls := (callsFor_perm slots offers).map fun entry : String × Call => (entry.1, entry.2.name)
  rw [List.map_map, List.map_flatMap] at hcalls
  simp only [List.map_map, Function.comp_def] at hcalls hnames
  exact hcalls.nodup_iff.mpr hnames

theorem callsOf_ofOffers {client : Client}
    (h : ofRegistry (Service.ofOffers mount slots offers).registry = .ok client) :
    callsOf client.print = some (callsFor slots offers) := by
  have hgroups := groups_ofRegistry h
  rw [Service.registrations_ofOffers] at hgroups
  rw [callsOf_print (hgroups ▸ wellNamed_groupsOf _), hgroups, groupsOf_offers]

theorem typesOf_ofOffers {client : Client}
    (h : ofRegistry (Service.ofOffers mount slots offers).registry = .ok client) :
    typesOf client.print = some ((callsFor slots offers).map fun group => (group.1, group.2.map fun call =>
      (call.name, aliasWord group.1 ++ aliasWord call.name ++ "Handler"))) := by
  have hgroups := groups_ofRegistry h
  rw [Service.registrations_ofOffers] at hgroups
  rw [typesOf_print (hgroups ▸ wellNamed_groupsOf _), hgroups, groupsOf_eq, callsFor, List.map_map, List.map_map,
    List.map_map]
  refine congrArg some (List.map_congr_left fun ns _ => congrArg (ns, ·) ?_)
  simp only [methodsIn, List.filter_map, List.map_map]
  refine List.map_congr_left fun offer hoffer => ?_
  -- the namespace of the group is that of the offer
  obtain rfl : offer.identity.ns = ns := of_decide_eq_true (List.mem_filter.mp hoffer).2
  rfl

/-- **Clients and routers agree.** After any session, the text of the client has one method for each offer that was
registered and no others: the groups stand in the order in which the namespaces were first registered, and the
methods of a group in the order of their registration. Read back, the two property names of a method are the
namespace and the name of its handler, no two methods have both in common, and the string that a method sends is
the key of the handler. A method takes no argument exactly when the input is a composite without fields. The key
below the mount path, of which one slash at the end does not count, is the path at which the router dispatches to
the handler. -/
theorem calls_dispatched (mount : Mount) (slots : SlotTable) (steps : List Service.Step) {client : Client}
    (h : ofRegistry (Service.session (.empty mount slots) steps).2.registry = .ok client) :
    let service := (Service.session (.empty mount slots) steps).2
    let offers := Service.registered steps (Service.session (.empty mount slots) steps).1
    (∃ groups, callsOf client.print = some groups ∧
      groups.map (·.1) = (offers.map (·.identity.ns)).eraseDups ∧
      (∀ group ∈ groups, group.2 = (offers.filter (·.identity.ns = group.1)).map (·.call slots)) ∧
      (groups.flatMap fun group => group.2.map fun call => (group.1, call)).Perm
        (offers.map fun offer => (offer.identity.ns, offer.call slots)) ∧
      (groups.flatMap fun group => group.2.map fun call => (group.1, call.name)).Nodup ∧
      typesOf client.print = some (groups.map fun group => (group.1, group.2.map fun call =>
        (call.name, aliasWord group.1 ++ aliasWord call.name ++ "Handler")))) ∧
    ∀ offer ∈ offers,
      ((offer.call slots).takesArgument = false ↔
        offer.signature.input.isComposite = true ∧ offer.signature.input.fields slots = []) ∧
      ∀ base, (mount.path = base ++ "/" ∨ (mount.path = base ∧ base.toList.getLast? ≠ some '/')) →
        ∀ request new, request.path = base ++ "/" ++ (offer.call slots).key →
          service.router.dispatch request new =
            some (offer.handler.route offer.identity mount.observed request new) := by
  intro service offers
  obtain ⟨hoffers, hservice⟩ : offers = Service.accepted steps ∧ service = Service.ofOffers mount slots offers :=
    Service.session_state mount slots steps
  have h : ofRegistry (Service.ofOffers mount slots offers).registry = .ok client := hservice ▸ h
  have hperm := callsFor_perm slots offers
  refine ⟨⟨callsFor slots offers, callsOf_ofOffers h, ?_, ?_, hperm, ?_, typesOf_ofOffers h⟩, fun offer hoffer =>
    ⟨?_, fun base hbase request new hpath => ?_⟩⟩
  · simp [callsFor, Function.comp_def]
  · intro group hgroup
    obtain ⟨ns, -, rfl⟩ := List.mem_map.mp hgroup
    rfl
  · rw [hoffers]
    exact callsFor_nodup slots (Service.accepted_identities_nodup steps)
  · rw [Offer.call, Bool.not_eq_false', isEmptyComposite_iff]
  · rw [hservice]
    refine Service.dispatch_of_mem ?_ hoffer ?_ new
    · rw [hoffers]
      exact Service.accepted_paths_nodup mount steps
    · rw [hpath, Offer.path, Mount.routeOf, Mount.dropTrailingSlash_eq hbase]
      rfl

/-- Handlers of two namespaces in turn, one with a quote in its name and one with a backslash. -/
theorem calls_dispatched_quoted :
    let quoted : RouteIdentity := ⟨"größe", "it's", by decide, by decide⟩
    let plain : RouteIdentity := ⟨"users", "list", by decide, by decide⟩
    let escaped : RouteIdentity := ⟨"größe", "a\\b", by decide, by decide⟩
    let answering : Handler Unit String :=
      ⟨fun _ => .ok (), fun _ _ => .value "", fun text => .ok (.string text)⟩
    let offer (identity : RouteIdentity) (input : Descriptor) : Offer := ⟨identity, ⟨input, .string⟩, answering⟩
    let steps : List Service.Step :=
      [.register (offer quoted .number), .register (offer plain (.inline (.listed []))),
        .register (offer escaped .string), .register (offer plain .number)]
    let service := (Service.session (.empty ⟨"/api/", false⟩ []) steps).2
    ∃ client groups, ofRegistry service.registry = .ok client ∧ callsOf client.print = some groups ∧
      groups.map (·.1) = ["größe", "users"] ∧
      (groups.flatMap fun group => group.2.map fun call => (group.1, call)).Perm
        [("größe", ⟨"it's", "größe.it's", true⟩), ("users", ⟨"list", "users.list", false⟩),
          ("größe", ⟨"a\\b", "größe.a\\b", true⟩)] ∧
      ∃ answer, service.router.dispatch ⟨"/api/größe.it's", [], []⟩ ⟨0⟩ = some answer ∧ answer.1.status = 200 := by
  intro quoted plain escaped answering offer steps service
  have hshown : (ofRegistry service.registry).toOption.map (fun _ => ()) = some () := by
    decide +kernel
  obtain ⟨client, hclient, -⟩ := exists_client hshown
  obtain ⟨⟨groups, hcalls, hnamespaces, -, hperm, -⟩, hoffers⟩ := calls_dispatched ⟨"/api/", false⟩ [] steps hclient
  have hanswer := (hoffers (offer quoted .number) List.mem_cons_self).2 "/api" (.inl rfl)
    ⟨"/api/größe.it's", [], []⟩ ⟨0⟩ rfl
  exact ⟨client, groups, hclient, hcalls, hnamespaces, hperm, _, hanswer, rfl⟩

end Client

end TypedRpc
