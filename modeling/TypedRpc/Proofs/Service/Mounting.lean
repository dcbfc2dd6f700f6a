import TypedRpc.Client.Basic
import TypedRpc.Proofs.KeyedList
import TypedRpc.Sample.Setup

/-!
# Handlers wherever they are mounted

A registry holds the path at which each handler is mounted, but the client of a registry does not depend on these paths
(`Client.ofRegistry_atRoot`). A setup that consists of registrations registers the same handlers at each mount
(`Setup.IgnoresMount`).
-/

namespace TypedRpc

/-- The registration of a handler as if it were mounted at the root. -/
def Registration.atRoot (registration : Registration) : Registration :=
  { registration with route := Mount.root.routeOf registration.identity }

/-- A registry as if its handlers were mounted at the root. -/
def Registry.atRoot (registry : Registry) : Registry where
  mount := .root
  slots := registry.slots
  handlers := registry.handlers.map fun entry => (entry.1, entry.2.atRoot)

namespace Registry

theorem get?_atRoot (registry : Registry) (key : String) :
    registry.atRoot.get? key = (registry.get? key).map Registration.atRoot :=
  lookup_map_values Registration.atRoot registry.handlers key

/-- What is recorded of a handler is the same at the root. -/
theorem atRoot_add (registry : Registry) (identity : RouteIdentity) (signature : Signature) :
    { registry with
      handlers := registry.handlers ++ [(identity.key, registry.record identity signature)] : Registry }.atRoot =
    { registry.atRoot with
      handlers := registry.atRoot.handlers ++ [(identity.key, registry.atRoot.record identity signature)] } := by
  simp [atRoot, record, Registration.atRoot]

end Registry

/-! ## The client -/

namespace Client

theorem compileAll_atRoot (slots : SlotTable) (registrations : List Registration) (c : Compiler) :
    compileAll slots (registrations.map Registration.atRoot) c = compileAll slots registrations c := by
  induction registrations generalizing c with
  | nil => rfl
  | cons registration rest ih =>
    simp only [List.map_cons, compileAll, ih]
    rfl

theorem groupsOf_atRoot (registrations : List Registration) :
    groupsOf (registrations.map Registration.atRoot) = groupsOf registrations :=
  List.foldl_map

/-- Nothing of a mount is seen in the client. -/
theorem ofRegistry_atRoot (registry : Registry) : ofRegistry registry.atRoot = ofRegistry registry := by
  have hregistrations : registry.atRoot.registrations = registry.registrations.map Registration.atRoot := by
    simp [Registry.registrations, Registry.atRoot]
  rw [ofRegistry, ofRegistry, hregistrations, groupsOf_atRoot]
  simp only [Registry.atRoot, compileAll_atRoot]

end Client

/-! ## Setups -/

namespace Setup

variable {α β : Type}

/-- From registries that differ in the mount alone a setup ends in the same way, with registries that differ in the mount
alone. -/
def IgnoresMount (setup : Setup α) : Prop :=
  ∀ service service' : Service, service.registry.atRoot = service'.registry.atRoot →
    (setup.run.run service).1 = (setup.run.run service').1 ∧
      (setup.run.run service).2.registry.atRoot = (setup.run.run service').2.registry.atRoot

theorem run_bind (first : Setup α) (next : α → Setup β) (service : Service) :
    (first >>= next).run.run service =
      match first.run.run service with
      | (.error failure, service) => (.error failure, service)
      | (.ok a, service) => (next a).run.run service := by
  rw [ExceptT.run_bind, StateT.run_bind]
  rcases first.run.run service with ⟨_ | _, _⟩ <;> rfl

theorem IgnoresMount.bind {first : Setup α} {next : α → Setup β} (hfirst : first.IgnoresMount)
    (hnext : ∀ a, (next a).IgnoresMount) : (first >>= next).IgnoresMount := by
  intro service service' h
  have hends := hfirst service service' h
  rw [run_bind, run_bind]
  generalize first.run.run service = outcome at hends
  generalize first.run.run service' = outcome' at hends
  obtain ⟨result, later⟩ := outcome
  obtain ⟨_, later'⟩ := outcome'
  obtain ⟨rfl, hregistry⟩ := hends
  cases result with
  | error failure => exact ⟨rfl, hregistry⟩
  | ok a => exact hnext a later later' hregistry

theorem run_handler (modulePath itemPath : String) (signature : Signature) (handler : Handler α β) (service : Service) :
    (Setup.handler modulePath itemPath signature handler).run.run service =
      match RouteIdentity.resolve modulePath itemPath with
      | .error e => (.error (.ofMessage e.message), service)
      | .ok identity =>
        match service.register identity signature handler with
        | .error e => (.error (.ofMessage e.message), service)
        | .ok (_, later) => (.ok (), later) := by
  rw [Setup.handler]
  cases RouteIdentity.resolve modulePath itemPath with
  | error e => rfl
  | ok identity =>
    dsimp only
    rw [run_bind]
    change (match service.register identity signature handler with
        | .error e => throw (.ofMessage e.message)
        | .ok (_, later) => set later : Setup Unit).run.run service = _
    rcases service.register identity signature handler with _ | _ <;> rfl

/-- A registration looks at the keys that are taken, not at the mount. -/
theorem ignoresMount_handler (modulePath itemPath : String) (signature : Signature) (handler : Handler α β) :
    (Setup.handler modulePath itemPath signature handler).IgnoresMount := by
  intro service service' h
  rw [run_handler, run_handler]
  cases RouteIdentity.resolve modulePath itemPath with
  | error e => exact ⟨rfl, h⟩
  | ok identity =>
    have hget : (service.registry.get? identity.key).map Registration.atRoot =
        (service'.registry.get? identity.key).map Registration.atRoot := by
      rw [← Registry.get?_atRoot, h, Registry.get?_atRoot]
    simp only [Service.register, Registry.register]
    cases hkey : service.registry.get? identity.key <;> cases hkey' : service'.registry.get? identity.key
    case none.none => exact ⟨rfl, by rw [Registry.atRoot_add, h, ← Registry.atRoot_add]⟩
    case some.some => exact ⟨rfl, h⟩
    all_goals simp [hkey, hkey'] at hget

end Setup

/-- The sample service has the same handlers wherever they are mounted. -/
theorem Sample.setup_ignoresMount (root version : String) : (Sample.setup root version).IgnoresMount :=
  .bind (Setup.ignoresMount_handler _ _ _ _) fun _ => .bind (Setup.ignoresMount_handler _ _ _ _) fun _ =>
    .bind (Setup.ignoresMount_handler _ _ _ _) fun _ => .bind (Setup.ignoresMount_handler _ _ _ _) fun _ =>
      .bind (Setup.ignoresMount_handler _ _ _ _) fun _ => Setup.ignoresMount_handler _ _ _ _

end TypedRpc
